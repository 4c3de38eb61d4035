import RuneGrid.Proofs.Execution.Done
import RuneGrid.Proofs.Sink.Bytes

/-!
# Streams and transcripts

A stream keeps a copy of what it passes on.  `copied` puts this copy in the place of the stream,
everywhere in a program at work, and forgets the writer.  As long as the writer refuses nothing,
what is left is in lockstep with the program that writes to a transcript: instructions
(`Instruction.Completes.copied`, `Instruction.Faults.copied`), turns, passes (`Pass.run_copied`),
ticks (`tick_copied`) and runs (`run?_copied`).

A refused glyph fails its tick (`RefusesAt`).  The tick is the same up to the pointer at fault,
which executes the same output in both; what the writer has of it is a part of the encoding.
`CutShort` says so of a run that ends there.
`stream_agrees_with_transcript` says both for the runs of a program from its start.
-/

namespace RuneGrid

/-! ### Forgetting the writer -/

def Shared.copied (shared : Shared Stream) : Shared Transcript :=
  { shared with sink := shared.sink.copy }

def Scene.copied (f : Scene Stream) : Scene Transcript :=
  { f with toShared := f.toShared.copied }

def Pass.copied (pass : Pass Stream) : Pass Transcript :=
  { pass with shared := pass.shared.copied }

def Execution.copied (s : Execution Stream) : Execution Transcript :=
  { s with toShared := s.toShared.copied }

def Tick.copied (t : Tick Stream) : Tick Transcript :=
  { t with next := t.next.copied }

def Run.copied (r : Run Stream) : Run Transcript :=
  { r with final := r.final.copied }

/-- The error says that the writer has refused a glyph. -/
def RunError.IsRefusal (e : RunError) : Prop :=
  e.code = .refusedOutput

/-- The run has ended with a refused glyph. -/
def Run.IsRefused {σ : Type} (r : Run σ) : Prop :=
  ∃ e, r.result = .error e ∧ e.IsRefusal

/-! ### One turn -/

section

variable {i : Instruction} {g : Grid} {n : Nat} {f f' : Scene Stream} {fault : Fault} {e : RunError}

theorem Instruction.Completes.copied (h : i.Completes f f') : i.Completes f.copied f'.copied := by
  cases h with
  | output hg hs => exact .output (f := f.copied) hg (Stream.emit_copy_of_taken hs)
  | push hv => exact .push (f := f.copied) hv
  | operate hv hp hr => exact .operate (f := f.copied) hv hp hr
  | digit d => exact .digit d f.copied
  | clear => exact .clear f.copied
  | finish => exact .finish f.copied
  | turn t => exact .turn t f.copied
  | faceEast => exact .faceEast f.copied
  | faceWest => exact .faceWest f.copied
  | reverseIf => exact .reverseIf f.copied
  | nop => exact .nop f.copied

theorem Instruction.Faults.copied (h : i.Faults f fault f') (hne : fault.code ≠ .refusedOutput) :
    i.Faults f.copied fault f'.copied := by
  cases h with
  | noGlyph hv hn => exact .noGlyph (f := f.copied) hv hn
  | refused => exact absurd rfl hne
  | unsetPush hv => exact .unsetPush (f := f.copied) hv
  | unsetOperate op hv => exact .unsetOperate op (f := f.copied) hv
  | emptyStack op hv hp => exact .emptyStack op (f := f.copied) hv hp
  | unsetOperand op hv hp => exact .unsetOperand op (f := f.copied) hv hp
  | arithmetic hv hp hr => exact .arithmetic (f := f.copied) hv hp hr

theorem Scene.Executes.copied (h : Executes g f f') : Executes g f.copied f'.copied := by
  obtain ⟨glyph, hc, hm⟩ := h.completes
  exact ⟨glyph, hc, hm.copied.effect_eq⟩

theorem Scene.Moves.copied (h : Moves g f f') : Moves g f.copied f'.copied := by
  obtain ⟨hm, hland⟩ := h
  exact .intro hm.copied hland

theorem Scene.Stops.copied (h : Stops g n f e f') (hne : ¬ e.IsRefusal) :
    Stops g n f.copied e f'.copied := by
  cases h with
  | offGrid hc => exact .offGrid (f := f.copied) hc
  | faulted hc hf => exact .faulted (f := f.copied) hc (hf.copied hne)
  | stranded hm hlost => exact .stranded hm.copied hlost

theorem Instruction.Completes.faithful (h : i.Completes f f') (hs : f.sink.Faithful) :
    f'.sink.Faithful := by
  cases h with
  | output _ hemit => exact hs.taken hemit
  | _ => exact hs

theorem Instruction.Faults.faithful (h : i.Faults f fault f') (hne : fault.code ≠ .refusedOutput)
    (hs : f.sink.Faithful) : f'.sink.Faithful := by
  cases h with
  | refused => exact absurd rfl hne
  | _ => exact hs

theorem Scene.Executes.faithful (h : Executes g f f') (hs : f.sink.Faithful) :
    f'.sink.Faithful := by
  obtain ⟨glyph, -, hm⟩ := h.completes
  exact hm.faithful hs

theorem Scene.Moves.faithful (h : Moves g f f') (hs : f.sink.Faithful) : f'.sink.Faithful := by
  obtain ⟨hm, -⟩ := h
  exact hm.faithful hs

theorem Scene.Stops.faithful (h : Stops g n f e f') (hne : ¬ e.IsRefusal)
    (hs : f.sink.Faithful) : f'.sink.Faithful := by
  cases h with
  | offGrid => exact hs
  | faulted _ hf => exact hf.faithful hne hs
  | stranded hm => exact hm.faithful hs

end

/-! ### One pass -/

namespace Pass

variable {g : Grid} {n : Nat} {ps : List Pointer} {shared : Shared Stream}

/-- **A pass in which nothing is refused**, seen by its copy. -/
theorem run_copied (h : ∀ e ∈ (run g n ps shared).error?, ¬ e.IsRefusal) :
    run g n ps shared.copied = (run g n ps shared).copied := by
  induction ps generalizing shared with
  | nil => rfl
  | cons p ps ih =>
    rcases Scene.moves_or_stops g n ⟨shared, p, []⟩ with ⟨f, hf⟩ | ⟨e, f, hf⟩
    · rw [run_cons_of_moves hf] at h
      rw [run_cons_of_moves hf, run_cons_of_moves (f := f.copied) hf.copied]
      have hrest : run g n ps f.copied.toShared = _ := ih h
      rw [hrest]
      rfl
    · rw [run_cons_of_stops hf] at h
      rw [run_cons_of_stops hf, run_cons_of_stops (f := f.copied) (hf.copied (h e rfl))]
      rfl

end Pass

/-! ### Ticks and runs -/

namespace Execution

variable {s : Execution Stream} {e : RunError} {k m n : Nat} {us : List (Execution Stream)}
  {r : Run Stream}

theorem pass_copied (h : ∀ e ∈ s.pass.error?, ¬ e.IsRefusal) : s.copied.pass = s.pass.copied :=
  Pass.run_copied h

/-- **A tick in which nothing is refused**, seen by its copy. -/
theorem tick_copied (h : ∀ e ∈ s.pass.error?, ¬ e.IsRefusal) : s.copied.tick = s.tick.copied := by
  rw [tick_eq, tick_eq, pass_copied h, show s.pass.copied.error? = s.pass.error? from rfl]
  cases s.pass.error? <;> rfl

theorem tick_copied_of_done (h : s.pass.error? = none) : s.copied.tick = s.tick.copied :=
  tick_copied (by simp [h])

theorem tick_copied_of_error (he : s.tick.result = .error e) (hne : ¬ e.IsRefusal) :
    s.copied.tick = s.tick.copied := by
  refine tick_copied fun e' he' => ?_
  obtain rfl : e = e' := Option.some.inj ((result_eq_error_iff.1 he).symm.trans he')
  exact hne

theorem pass_faithful (h : s.pass.error? = none) (hs : s.sink.Faithful) :
    s.pass.shared.sink.Faithful :=
  Pass.shared_of_done (I := fun shared => shared.sink.Faithful) (fun _ _ hm hs => hm.faithful hs)
    h hs

namespace GetsDone

theorem after_copied (h : s.GetsDone n) (hm : m ≤ n) : s.copied.after m = (s.after m).copied := by
  induction m with
  | zero => rfl
  | succ m ih =>
    rw [after, ih (Nat.le_of_succ_le hm), tick_copied_of_done (h.pass_eq_none hm)]
    rfl

theorem faithful (h : s.GetsDone n) (hs : s.sink.Faithful) : (s.after n).sink.Faithful := by
  induction n with
  | zero => exact hs
  | succ n ih =>
    rw [after, toShared_next]
    exact pass_faithful (h.pass_eq_none (Nat.lt_succ_self n)) (ih (h.of_le (Nat.le_succ n)))

end GetsDone

/-- **A run in which nothing is refused**, seen by its copy. -/
theorem runFor_copied
    (h : ∀ r ∈ Id.run (runFor (fun _ => pure ()) n s), ¬ r.IsRefused) :
    Id.run (runFor (fun _ => pure ()) n s.copied) =
      (Id.run (runFor (fun _ => pure ()) n s)).map Run.copied := by
  induction n generalizing s with
  | zero => rfl
  | succ n ih =>
    cases hh : s.halted with
    | true => rw [runFor_of_halted hh, runFor_of_halted (s := s.copied) hh]; rfl
    | false =>
      cases hs : s.isSpent with
      | true => rw [runFor_of_spent hh hs, runFor_of_spent (s := s.copied) hh hs]; rfl
      | false =>
        rw [runFor_of_left hh hs] at h
        rw [runFor_of_left hh hs, runFor_of_left (s := s.copied) hh hs]
        cases hr : s.tick.result with
        | error e =>
          rw [hr] at h
          rw [tick_copied_of_error hr fun he => h _ rfl ⟨e, rfl, he⟩,
            show s.tick.copied.result = s.tick.result from rfl, hr]
          rfl
        | ok halted =>
          rw [hr] at h
          rw [tick_copied_of_done (result_ok_iff.1 ⟨_, hr⟩),
            show s.tick.copied.result = s.tick.result from rfl, hr]
          exact ih h

theorem run?_copied (h : ∀ r ∈ s.run?, ¬ r.IsRefused) : s.copied.run? = s.run?.map Run.copied := by
  rw [run?_eq] at h
  rw [run?_eq, run?_eq]
  exact runFor_copied h

/-- A run in which nothing is refused leaves a faithful stream. -/
theorem Runs.faithful (h : s.Runs us r) (hr : ¬ r.IsRefused) (hs : s.sink.Faithful) :
    r.final.sink.Faithful := by
  obtain ⟨n, hdone, -, hend⟩ := h.getsDone
  rw [h.states_eq.2]
  rcases hend with ⟨hlen, -⟩ | ⟨e, hlen, he, hresult⟩
  · rw [hlen]
    exact hdone.faithful hs
  · obtain ⟨k, p, f, hk, hcut, hstop⟩ := exists_cut he
    rw [hlen, after, (next_of_stops hk hcut hstop).2.2]
    have hbefore : ((s.after n).cut k).pass.shared.sink.Faithful :=
      pass_faithful hcut (hdone.faithful hs)
    exact hstop.faithful (fun he => hr ⟨e, hresult, he⟩) hbefore

end Execution

/-! ### A refused glyph -/

section

variable {σ : Type} [Sink σ] {i : Instruction} {g : Grid} {n : Nat} {f f' : Scene σ} {fault : Fault}
  {e : RunError}

theorem Instruction.Faults.of_refusal (h : i.Faults f fault f') (he : fault.code = .refusedOutput) :
    i = .output ∧ ∃ glyph cause, fault = .refusedOutput cause ∧ f.pointer.glyph = .ok glyph ∧
      Sink.emit glyph f.sink = .error cause f'.sink ∧ f' = { f with sink := f'.sink } := by
  cases h with
  | refused hg hs => exact ⟨rfl, _, _, rfl, hg, hs, rfl⟩
  | arithmetic _ _ hr => rcases apply_eq_error hr with rfl | ⟨-, rfl⟩ <;> cases he
  | _ => cases he

/-- A refusal is that of an output. -/
theorem Scene.Stops.of_refusal (h : Stops g n f e f') (he : e.IsRefusal) :
    ∃ cell glyph cause, g.cell f.pointer.pos = some cell ∧ Instruction.ofGlyph cell = .output ∧
      f.pointer.glyph = .ok glyph ∧ Sink.emit glyph f.sink = .error cause f'.sink ∧
      e = .faulted (.refusedOutput cause) ⟨f.pointer.id, f.pointer.pos, some cell⟩ n ∧
      f'.toShared = { f.toShared with sink := f'.sink } := by
  cases h with
  | offGrid => cases he
  | stranded => cases he
  | @faulted _ cell _ hc hf =>
    obtain ⟨hi, glyph, cause, rfl, hg, hs, hf'⟩ := hf.of_refusal he
    exact ⟨cell, glyph, cause, hc, hi, hg, hs, rfl, congrArg (·.toShared) hf'⟩

end

/-- An output to a transcript is executed whatever the glyph. -/
theorem Scene.exists_executes_output {g : Grid} {f : Scene Transcript} {cell glyph : Char}
    (hc : g.cell f.pointer.pos = some cell) (hi : Instruction.ofGlyph cell = .output)
    (hg : f.pointer.glyph = .ok glyph) :
    ∃ m, Executes g f m ∧ m.toShared = { f.toShared with sink := f.sink.push glyph } := by
  have hm := Instruction.Completes.output
    (f := f.note (.command f.pointer.id f.pointer.pos cell)) hg rfl
  rw [← hi] at hm
  exact ⟨_, ⟨cell, hc, hm.effect_eq⟩, rfl⟩

namespace Execution

section

variable {σ : Type} [Sink σ] {s : Execution σ} {p : Pointer} {m : Scene σ} {k : Nat}

/-- What an executed cell has written is there after the tick, whether or not this gets done. -/
theorem Executes.transcript_prefix [LawfulSink σ] (h : s.Executes k p m) :
    (Sink.transcript m.sink).toList <+: s.tick.next.transcript.toList := by
  obtain ⟨hp, hcut, hm⟩ := h
  rw [toShared_next] at hm
  rw [transcript, toShared_next, shared_pass_eq hp (result_ok_iff.1 hcut)]
  cases hland : s.grid.wrap m.pointer.bias m.pointer.advance.pos with
  | none =>
    rw [Pass.run_cons_of_stops (.stranded hm hland)]
  | some pos =>
    rw [Pass.run_cons_of_moves (.intro hm hland)]
    exact Pass.transcript_prefix _ _ _ _

end

/-- In the tick of `s`, the writer refuses the glyph of pointer `k`. -/
structure RefusesAt (s : Execution Stream) (k : Nat) (glyph : Char) (cause : WriteError) :
    Prop where
  /-- The pointers before have their turns, the same as with a transcript. -/
  reached : ∃ halted, (s.cut k).tick.result = .ok halted
  turns : (s.copied.cut k).tick = (s.cut k).tick.copied
  refused : Sink.emit glyph (s.cut k).tick.next.sink = .error cause s.tick.next.sink
  /-- The refusal changes nothing but the writer. -/
  shared : s.tick.next.toShared.copied = (s.cut k).tick.next.toShared.copied
  /-- With a transcript, the pointer executes the same output. -/
  executes : ∃ p m, s.copied.Executes k p m ∧ p.glyph = .ok glyph ∧
    (s.grid.cell p.pos).map Instruction.ofGlyph = some .output ∧
    m.toShared = { s.tick.next.toShared.copied with sink := s.tick.next.sink.copy.push glyph }
  /-- The writer has taken all glyphs before, and perhaps a part of this one. -/
  bytes : ∃ part, part <+: String.utf8EncodeChar glyph ∧
    s.tick.next.sink.written = utf8 s.tick.next.transcript ++ part

/-- The run from `s` ends as `r` in tick `n + 1`, where the writer refuses the glyph of pointer `k`,
while the run from `u` writes it to its transcript and goes on. -/
structure CutShort (s : Execution Stream) (u : Execution Transcript) (n k : Nat) (glyph : Char)
    (cause : WriteError) (r : Run Stream) : Prop where
  goesOn : u.GoesOn n
  left : (u.after n).isSpent = false
  states : ∀ m ≤ n, u.after m = (s.after m).copied
  refuses : (s.after n).RefusesAt k glyph cause
  final : r.final = (s.after n).tick.next
  /-- If the other run ends, then after this tick, with this glyph in its transcript. -/
  ends : ∀ r', u.run? = some r' → (∃ us, u.Runs us r' ∧ us[n]? = some (u.after n)) ∧
    (r.final.transcript.push glyph).toList <+: r'.final.transcript.toList

variable {s : Execution Stream} {e : RunError} {r : Run Stream}

/-- **A refusal**, after the same turns as with a transcript. -/
theorem exists_refusesAt (hs : s.sink.Faithful) (he : s.tick.result = .error e)
    (hrefusal : e.IsRefusal) : ∃ k glyph cause p cell, s.pointers[k]? = some p ∧
      e = .faulted (.refusedOutput cause) ⟨p.id, p.pos, some cell⟩ (s.ticks + 1) ∧
      s.RefusesAt k glyph cause := by
  obtain ⟨k, p, f, hk, hcut, hstop⟩ := exists_cut he
  obtain ⟨-, -, hnext⟩ := next_of_stops hk hcut hstop
  have hfaithful := pass_faithful hcut hs
  rw [← toShared_next] at hstop hfaithful
  obtain ⟨cell, glyph, cause, hc, hi, hg, hemit, rfl, hf⟩ := hstop.of_refusal hrefusal
  rw [← hnext] at hemit hf
  obtain ⟨⟨part, hpart, hwritten⟩, hcopy⟩ := Stream.exists_part_of_refused hemit
  have hshared : s.tick.next.toShared.copied = (s.cut k).tick.next.toShared.copied := by
    rw [hf, Shared.copied, hcopy]
    rfl
  have hturns : (s.copied.cut k).tick = (s.cut k).tick.copied := tick_copied_of_done hcut
  obtain ⟨m, hm, hmshared⟩ := Scene.exists_executes_output
    (f := ⟨(s.copied.cut k).tick.next.toShared, p, []⟩) hc hi hg
  rw [hturns] at hmshared
  refine ⟨k, glyph, cause, p, cell, hk, rfl, ⟨result_ok_iff.2 hcut, hturns, hemit, hshared,
    ⟨p, m, ⟨hk, ?_, hm⟩, hg, ?_, ?_⟩, part, hpart, ?_⟩⟩
  · rw [hturns]
    exact result_ok_iff.2 hcut
  · exact Option.map_eq_some_iff.2 ⟨cell, hc, hi⟩
  · rw [hshared, hcopy]
    exact hmshared
  · rw [hwritten, hfaithful, ← hcopy]
    rfl

/-- **A run that is cut short**, from any state with a faithful stream. -/
theorem exists_cutShort (hs : s.sink.Faithful) (h : s.run? = some r) (hr : r.IsRefused) :
    ∃ n k glyph cause p cell, s.GetsDone n ∧ (s.after n).pointers[k]? = some p ∧
      r.result = .error (.faulted (.refusedOutput cause) ⟨p.id, p.pos, some cell⟩
        ((s.after n).ticks + 1)) ∧
      s.CutShort s.copied n k glyph cause r := by
  obtain ⟨us, hus⟩ := exists_runs h
  obtain ⟨e, hresult, hrefusal⟩ := hr
  obtain ⟨n, hdone, -, ⟨-, hend⟩ | ⟨e', hlen, he, hend⟩⟩ := hus.getsDone
  · rw [hresult] at hend
    rcases hend with hend | hend <;> cases hend
    cases hrefusal
  obtain rfl : e = e' := Except.error.inj (hresult.symm.trans hend)
  obtain ⟨k, glyph, cause, p, cell, hk, rfl, hrefuses⟩ :=
    exists_refusesAt (hdone.faithful hs) he hrefusal
  have hfinal : r.final = (s.after n).tick.next := by rw [hus.states_eq.2, hlen, after]
  have hstate : s.copied.after n = (s.after n).copied := hdone.after_copied le_rfl
  have hgo : s.copied.GoesOn n := by
    intro j hj
    rw [hdone.after_copied hj.le, tick_copied_of_done (hdone.pass_eq_none hj)]
    exact hus.goesOn_of_lt (k := n) (by omega) j hj
  obtain ⟨hrunning, -⟩ := hus.running (k := 0) (by omega)
  obtain ⟨-, hleft⟩ := hus.running (k := n) (by omega)
  have hleft : (s.copied.after n).isSpent = false := by
    rw [hstate]
    exact hleft
  refine ⟨n, k, glyph, cause, p, cell, hdone, hk, hresult, hgo, hleft,
    fun m hm => hdone.after_copied hm, hrefuses, hfinal, fun r' hr' => ?_⟩
  obtain ⟨ts, hts⟩ := exists_runs hr'
  have hmade : ts[n]? = some (s.copied.after n) := hts.getElem?_of_goesOn hrunning hgo hleft
  refine ⟨⟨ts, hts, hmade⟩, ?_⟩
  -- the tick has written the glyph, and the run does not end before it
  obtain ⟨p', m, hm, -, -, hmshared⟩ := hrefuses.executes
  have hprefix := hm.transcript_prefix
  rw [← hstate, hmshared] at hprefix
  obtain ⟨hlt, -⟩ := List.getElem?_eq_some_iff.1 hmade
  rw [hts.states_eq.2, hfinal]
  exact hprefix.trans (transcript_prefix_after _ (m := n + 1) hlt)

variable {program : Program} {script : Script} {limit : Option Nat} {u : Execution Transcript}

/-- **A stream agrees with a transcript up to the first refusal.**  Let a program run once to a
stream over some writer, whatever this takes and wherever it fails, and once to a transcript.  If
the stream refuses no glyph, then the runs end in the same way and in the same state, and the writer
has taken the encoding of the transcript.  Otherwise the runs are the same up to the pointer whose
glyph is refused, which executes this output in both, and the writer has taken the encoding of the
transcript so far and perhaps a part of this glyph. -/
theorem stream_agrees_with_transcript (hs : ofProgram program (Stream.ofScript script) limit = s)
    (hu : ofProgram program Transcript.empty limit = u) :
    ((∀ r, s.run? = some r → ¬ r.IsRefused) → u.run? = s.run?.map Run.copied ∧
      ∀ r, s.run? = some r → r.final.sink.written = utf8 r.final.transcript) ∧
    ∀ r, s.run? = some r → r.IsRefused → ∃ n k glyph cause site,
      r.result = .error (.faulted (.refusedOutput cause) site (n + 1)) ∧
      (program.Built → site.pointer = k) ∧ s.CutShort u n k glyph cause r := by
  have hfaithful : s.sink.Faithful := hs ▸ Stream.faithful_ofScript script
  have hcopied : u = s.copied := by
    rw [← hs, ← hu]
    rfl
  subst hcopied
  refine ⟨fun h => ⟨run?_copied h, fun r hr => ?_⟩, fun r hr hrefused => ?_⟩
  · obtain ⟨us, hus⟩ := exists_runs hr
    exact hus.faithful (h r hr) hfaithful
  · obtain ⟨n, k, glyph, cause, p, cell, hdone, hk, hresult, hcut⟩ :=
      exists_cutShort hfaithful hr hrefused
    subst hs
    refine ⟨n, k, glyph, cause, ⟨p.id, p.pos, some cell⟩, ?_,
      fun hp => (hdone.placed hp).id_eq hp hk, hcut⟩
    rw [hresult, hdone.ticks_after]
    exact congrArg (fun t => Except.error (RunError.faulted _ _ (t + 1))) (Nat.zero_add n)

/-- Pointer 1 of `lanes` writes in the second tick.  A writer that takes everything makes no
difference; one that breaks after two single bytes has taken two thirds of the glyph. -/
theorem lanes_streams : ∃ s s' u r r',
    ofProgram .lanes (Stream.ofScript .compliant) (some 3) = s ∧
    ofProgram .lanes (Stream.ofScript (.ofLimits (some 1) (some 2) none)) (some 3) = s' ∧
    ofProgram .lanes Transcript.empty (some 3) = u ∧
    (s.run? = some r ∧ r.result = .error (.outOfTicks 3) ∧ u.run? = some r.copied ∧
      r.final.sink.written = utf8 r.final.transcript) ∧
    s'.run? = some r' ∧ ∃ glyph cause,
      r'.result = .error (.faulted (.refusedOutput cause) ⟨1, ⟨1, 1⟩, some 'ᚭ'⟩ 2) ∧
      s'.CutShort u 1 1 glyph cause r' := by
  obtain ⟨s, hs⟩ : ∃ s, ofProgram .lanes (Stream.ofScript .compliant) (some 3) = s := ⟨_, rfl⟩
  obtain ⟨s', hs'⟩ : ∃ s', ofProgram .lanes (Stream.ofScript (.ofLimits (some 1) (some 2) none))
    (some 3) = s' := ⟨_, rfl⟩
  obtain ⟨u, hu⟩ : ∃ u, ofProgram .lanes Transcript.empty (some 3) = u := ⟨_, rfl⟩
  obtain ⟨hresult, hresult'⟩ : s.run?.map (·.result) = some (.error (.outOfTicks 3)) ∧
      s'.run?.map (·.result) = some (.error (.faulted (.refusedOutput ⟨.brokenPipe, "closed"⟩)
        ⟨1, ⟨1, 1⟩, some 'ᚭ'⟩ 2)) := by
    subst hs hs'
    decide +kernel
  obtain ⟨r, hr, hresult⟩ := Option.map_eq_some_iff.1 hresult
  obtain ⟨r', hr', hresult'⟩ := Option.map_eq_some_iff.1 hresult'
  have hgood : ∀ r, s.run? = some r → ¬ r.IsRefused := by
    intro r₁ hr₁ ⟨e, he, hrefusal⟩
    obtain rfl : r = r₁ := Option.some.inj (hr.symm.trans hr₁)
    rw [hresult] at he
    cases he
    cases hrefusal
  obtain ⟨hu', hwritten⟩ := (stream_agrees_with_transcript hs hu).1 hgood
  rw [hr] at hu'
  obtain ⟨n, k, glyph, cause, site, he, hk, hcut⟩ :=
    (stream_agrees_with_transcript hs' hu).2 r' hr' ⟨_, hresult', rfl⟩
  rw [hresult'] at he
  cases he
  obtain rfl : 1 = k := hk Program.built_lanes
  exact ⟨s, s', u, r, r', hs, hs', hu, ⟨hr, hresult, hu', hwritten r hr⟩, hr', glyph, _, hresult',
    hcut⟩

end Execution

end RuneGrid
