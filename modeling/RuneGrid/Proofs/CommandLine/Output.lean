import RuneGrid.Proofs.CommandLine.Files
import RuneGrid.Proofs.Execution.Observing
import RuneGrid.Proofs.Execution.Writing

/-!
# What a command puts out

Some actions do nothing to a machine but put out text (`Machine.Says`).  Printing and complaining
are such actions, one after the other puts out both texts, and so one can tell what an observed run
puts out: what the program writes, and in the log what a subscriber writes about what is seen
(`Machine.says_runWith`).
-/

namespace RuneGrid

namespace CommandLine

/-! ### What an action puts out -/

namespace Machine

/-- The machine after some more text has been put out. -/
def say (k : Machine) (output complaints : String) : Machine :=
  (k.print output).complain complaints

theorem sameTree_say (k : Machine) (output complaints : String) :
    SameTree k (k.say output complaints) :=
  ⟨rfl, fun _ => rfl⟩

theorem say_empty (k : Machine) : k.say "" "" = k := by
  unfold say print complain
  rw [String.append_empty, String.append_empty]

theorem say_say (k : Machine) (output complaints output' complaints' : String) :
    (k.say output complaints).say output' complaints' =
      k.say (output ++ output') (complaints ++ complaints') := by
  unfold say print complain
  dsimp only
  rw [String.append_assoc, String.append_assoc]

theorem read_say (k : Machine) (output complaints path : String) :
    (k.say output complaints).read path = k.read path := rfl

/-- The action does nothing but put out these texts, and answers `a`. -/
def Says {α : Type} (act : StateM Machine α) (a : α) (output complaints : String) : Prop :=
  ∀ k : Machine, k.after act = (a, k.say output complaints)

namespace Says

variable {α β : Type} {act : StateM Machine α} {next : α → StateM Machine β} {a : α} {b : β}
  {output complaints output' complaints' : String}

theorem pure (a : α) : Says (Pure.pure a) a "" "" := by
  intro k
  rw [say_empty]
  rfl

theorem bind (h : Says act a output complaints) (h' : Says (next a) b output' complaints') :
    Says (act >>= next) b (output ++ output') (complaints ++ complaints') := by
  intro k
  rw [after_bind, h k, h' _, say_say]

theorem seq {act' : StateM Machine β} (h : Says act a output complaints)
    (h' : Says act' b output' complaints') :
    Says (act >>= fun _ => act') b (output ++ output') (complaints ++ complaints') :=
  h.bind h'

theorem print (text : String) : Says (Host.print text) () text "" := by
  intro k
  show ((), k.print text) = _
  unfold say Machine.complain
  rw [String.append_empty]

theorem complain (text : String) : Says (Host.complain text) () "" text := by
  intro k
  show ((), k.complain text) = _
  unfold say Machine.print
  rw [String.append_empty]

end Says

end Machine

/-! ### The log -/

/-- What a subscriber writes for a record. -/
def lineOf (subscriber : Log.Subscriber) (record : Log.Record) : String :=
  (subscriber.lineOf? record).getD ""

/-- What a subscriber writes for the record of an event, if it has one. -/
def lineOfEvent (subscriber : Log.Subscriber) (e : Event) : String :=
  ((Log.ofEvent? e).map (lineOf subscriber)).getD ""

/-- What a subscriber writes for the records of some events. -/
def linesOf (subscriber : Log.Subscriber) : List Event → String
  | [] => ""
  | e :: events => lineOfEvent subscriber e ++ linesOf subscriber events

namespace Machine

theorem says_write (subscriber : Log.Subscriber) (record : Log.Record) :
    Says (Logging.write ⟨false, subscriber⟩ record) () "" (lineOf subscriber record) := by
  unfold Logging.write lineOf
  cases subscriber.lineOf? record with
  | none => exact .pure _
  | some line => exact .complain line

/-- Of an event, the glyph that is written is put out, and a record is a complaint. -/
theorem says_observe (subscriber : Log.Subscriber) (e : Event) :
    Says (Logging.observe ⟨false, subscriber⟩ e) () (String.ofList e.glyph?.toList)
      (lineOfEvent subscriber e) := by
  have hparts : (Logging.observe ⟨false, subscriber⟩ e : StateM Machine Unit) =
      (Log.ofEvent? e).elim (pure ()) (Logging.write ⟨false, subscriber⟩) >>= fun _ =>
        e.glyph?.elim (pure ()) fun glyph => Host.print glyph.toString := by
    cases e <;> rfl
  have hlog : Says ((Log.ofEvent? e).elim (pure ()) (Logging.write ⟨false, subscriber⟩)) () ""
      (lineOfEvent subscriber e) := by
    unfold lineOfEvent
    cases Log.ofEvent? e with
    | none => exact .pure ()
    | some record => exact says_write subscriber record
  have hglyph : Says (e.glyph?.elim (pure ()) fun glyph => Host.print glyph.toString) ()
      (String.ofList e.glyph?.toList) "" := by
    cases e.glyph? with
    | none => exact .pure ()
    | some glyph => exact .print _
  have hboth := hlog.seq hglyph
  rw [String.empty_append, String.append_empty] at hboth
  rw [hparts]
  exact hboth

theorem says_forM (subscriber : Log.Subscriber) (events : List Event) :
    Says (forM events (Logging.observe ⟨false, subscriber⟩)) ()
      (String.ofList (glyphsOf events)) (linesOf subscriber events) := by
  induction events with
  | nil => exact .pure ()
  | cons e events ih =>
    have hglyphs : glyphsOf (e :: events) = e.glyph?.toList ++ glyphsOf events := by
      rw [← List.singleton_append, glyphsOf_append]
      cases e <;> rfl
    rw [List.forM_cons, hglyphs, String.ofList_append]
    exact (says_observe subscriber e).seq ih

/-! ### A run -/

variable {s : Execution Transcript} {us : List (Execution Transcript)} {r : Run Transcript}
  {program : Program} {limit : Option Nat}

theorem says_runWith (subscriber : Log.Subscriber) (hr : s.run? = some r) (h : s.Runs us r) :
    Says (s.runWith (Logging.observe ⟨false, subscriber⟩)) (some r)
      (String.ofList (glyphsOf (s.seen us r))) (linesOf subscriber (s.seen us r)) := by
  have hsays := (says_forM subscriber (s.seen us r)).seq (.pure (some r))
  rw [String.append_empty, String.append_empty] at hsays
  rw [Execution.runWith_eq _ hr h]
  exact hsays

/-- What is seen to be written is what the program has written. -/
theorem ofList_glyphsOf_seen (h : (Execution.ofProgram program Transcript.empty limit).Runs us r) :
    String.ofList (glyphsOf ((Execution.ofProgram program Transcript.empty limit).seen us r)) =
      r.final.transcript := by
  rw [Execution.glyphsOf_seen, ← String.toList_inj, String.toList_ofList, h.transcript_eq]
  rfl

end Machine

end CommandLine

end RuneGrid
