import RuneGrid.Proofs.Execution.Observing
import RuneGrid.Proofs.Log.Records

/-!
# The log of a run

Of all that there is to see of a load and a run, the log shows the loading, the start, each command,
the end of each tick that gets done and the halting.  A pointer on a cell announces one command in
its turn, whatever comes of it (`Seated.records_turn`).  So a tick that gets done announces one
command for each pointer, in the order of their numbers (`Seated.records_of_done`), and a tick that
fails one for each pointer up to the one at fault (`Seated.records_of_error`).  A run from the start
is a number of the former and perhaps one of the latter at its end (`records_seen`).

`log_is_chronicle` puts this together for a program from its source to the end of its run.  What the
log is to be (`chronicle`) is written out record by record.
-/

namespace RuneGrid

open Log (recordsOf recordsOf_append recordsOf_flatMap)

variable {σ : Type}

/-! ### One turn -/

theorem Scene.records_note (f : Scene σ) (e : Event) :
    recordsOf .debug (f.note e).events = recordsOf .debug f.events ++ recordsOf .debug [e] :=
  recordsOf_append ..

section

variable [Sink σ] {i : Instruction} {g : Grid} {n : Nat} {f f' : Scene σ} {fault : Fault}
  {e : RunError}

/-- An instruction leaves no record itself, it is only announced. -/
theorem Instruction.Completes.records_eq (h : i.Completes f f') :
    recordsOf .debug f'.events = recordsOf .debug f.events := by
  cases h with
  | push | output | operate => exact (Scene.records_note _ _).trans (List.append_nil _)
  | _ => rfl

theorem Instruction.Faults.records_eq (h : i.Faults f fault f') :
    recordsOf .debug f'.events = recordsOf .debug f.events := by
  cases h with
  | unsetOperand | arithmetic => exact (Scene.records_note _ _).trans (List.append_nil _)
  | _ => rfl

theorem Scene.Executes.records_eq (h : Executes g f f') :
    ∃ glyph, g.cell f.pointer.pos = some glyph ∧ recordsOf .debug f'.events =
      recordsOf .debug f.events ++ recordsOf .debug [.command f.pointer.id f.pointer.pos glyph] := by
  obtain ⟨glyph, hc, hm⟩ := h.completes
  exact ⟨glyph, hc, by rw [hm.records_eq, records_note]⟩

theorem Scene.Moves.records_eq (h : Moves g f f') :
    ∃ glyph, g.cell f.pointer.pos = some glyph ∧ recordsOf .debug f'.events =
      recordsOf .debug f.events ++ recordsOf .debug [.command f.pointer.id f.pointer.pos glyph] := by
  obtain ⟨hm, -⟩ := h
  exact hm.records_eq

theorem Scene.Stops.records_eq (h : Stops g n f e f') (hc : (g.cell f.pointer.pos).isSome) :
    ∃ glyph, g.cell f.pointer.pos = some glyph ∧ recordsOf .debug f'.events =
      recordsOf .debug f.events ++ recordsOf .debug [.command f.pointer.id f.pointer.pos glyph] := by
  cases h with
  | offGrid hnone =>
    rw [hnone] at hc
    cases hc
  | @faulted _ glyph _ hcell hf =>
    exact ⟨glyph, hcell, by rw [hf.records_eq, records_note]⟩
  | stranded hm => exact hm.records_eq

end

/-! ### One tick -/

namespace Execution

/-- Where pointer `i` stands. -/
def place (s : Execution σ) (i : Nat) : Vec :=
  (s.pointers[i]?.map (·.pos)).getD default

/-- The glyph under pointer `i`. -/
def under (s : Execution σ) (i : Nat) : Char :=
  (s.grid.cell (s.place i)).getD default

/-- The record that pointer `i` is about to execute the cell under it. -/
def command (s : Execution σ) (i : Nat) : Log.Record where
  level := .debug
  origin := .scheduler
  message := "command"
  fields := [("pointer", toString i), ("x", toString (s.place i).x), ("y", toString (s.place i).y),
    ("glyph", (s.under i).toString),
    ("op", Text.quoted (Instruction.ofGlyph (s.under i)).mnemonic)]
  guarded := false

/-- The record of a tick that has got done and left the state `s`.  There is one glyph for each
register. -/
def summary (s : Execution σ) (tick : Nat) : Log.Record where
  level := .debug
  origin := .scheduler
  message := "pointer vars"
  fields := [("tick", toString tick),
    ("registers", String.ofList (s.pointers.map fun p =>
      p.register.elim Glyph.separator fun v => (Glyph.numeral? v).getD '?')),
    ("stack_top", s.stack.top?.elim "None" fun entry =>
      entry.elim "Some(None)" fun v => s!"Some(Some({v.toInt}))")]
  guarded := true

theorem records_ticked (s : Execution σ) (tick : Nat) :
    recordsOf .debug [.ticked tick (s.pointers.map (·.register)) s.stack.top?] =
      [s.summary tick] := by
  have hregisters : (s.pointers.map (·.register)).map Glyph.ofRegister = s.pointers.map fun p =>
      p.register.elim Glyph.separator fun v => (Glyph.numeral? v).getD '?' := by
    rw [List.map_map]
    refine List.map_congr_left fun p _ => ?_
    show Glyph.ofRegister p.register = _
    cases p.register <;> rfl
  have htop : Log.topText s.stack.top? = s.stack.top?.elim "None" fun entry =>
      entry.elim "Some(None)" fun v => s!"Some(Some({v.toInt}))" := by
    rcases s.stack.top? with _ | _ | _ <;> rfl
  unfold summary
  rw [← hregisters, ← htop]
  rfl

/-- Every pointer has the number of its place in the list and stands on a cell. -/
def Seated (s : Execution σ) : Prop :=
  ∀ (i : Nat) (p : Pointer), s.pointers[i]? = some p → p.id = i ∧ (s.grid.cell p.pos).isSome

section

variable {s : Execution σ} {p : Pointer} {i k : Nat}

theorem place_eq (hi : s.pointers[i]? = some p) : s.place i = p.pos := by
  rw [place, hi]
  rfl

theorem Seated.cell_eq (h : s.Seated) (hi : s.pointers[i]? = some p) :
    s.grid.cell p.pos = some (s.under i) := by
  obtain ⟨glyph, hc⟩ := Option.isSome_iff_exists.1 (h i p hi).2
  rw [under, place_eq hi, hc]
  rfl

/-- What a pointer announces is true of it. -/
theorem Seated.records_command (h : s.Seated) (hi : s.pointers[i]? = some p) {glyph : Char}
    (hglyph : s.grid.cell p.pos = some glyph) :
    recordsOf .debug [.command p.id p.pos glyph] = [s.command i] := by
  obtain ⟨hid, -⟩ := h i p hi
  rw [h.cell_eq hi] at hglyph
  cases hglyph
  rw [hid, ← place_eq hi]
  rfl

variable [Sink σ] {e : RunError}

/-- **In its turn, a pointer announces one command**, whatever comes of it. -/
theorem Seated.records_turn (h : s.Seated) (hi : s.pointers[i]? = some p) :
    recordsOf .debug (s.turn i) = [s.command i] := by
  rcases Scene.moves_or_stops s.grid (s.ticks + 1) ⟨(s.cut i).pass.shared, p, []⟩ with
    ⟨f, hf⟩ | ⟨e, f, hf⟩
  · obtain ⟨glyph, hglyph, heq⟩ := hf.records_eq
    rw [turn_of_moves hi hf, heq]
    exact h.records_command hi hglyph
  · obtain ⟨glyph, hglyph, heq⟩ := hf.records_eq (h i p hi).2
    rw [turn_of_stops hi hf, heq]
    exact h.records_command hi hglyph

theorem Seated.records_turns (h : s.Seated) (hk : k ≤ s.pointers.length) :
    recordsOf .debug ((List.range k).flatMap s.turn) = (List.range k).map s.command := by
  rw [recordsOf_flatMap, List.map_eq_flatMap]
  refine List.flatMap_congr fun i hi => ?_
  have hlt : i < s.pointers.length := (List.mem_range.1 hi).trans_le hk
  exact h.records_turn (List.getElem?_eq_getElem hlt)

/-- **A tick that gets done** announces a command for each pointer, in order, and its end. -/
theorem Seated.records_of_done (h : s.Seated) (hdone : s.pass.error? = none) :
    recordsOf .debug s.tick.events =
      (List.range s.pointers.length).map s.command ++ [s.tick.next.summary (s.ticks + 1)] := by
  have hpass : s.pass.events = (List.range s.pointers.length).flatMap s.turn := by
    rw [← cut_length s] at hdone
    rw [← events_cut_eq fun j hj => cut_pass_of_le hdone hj.le, cut_length]
  rw [tick_eq, hdone]
  dsimp only
  rw [recordsOf_append, hpass, h.records_turns le_rfl, ← records_ticked]

/-- **A tick that fails** announces a command for each pointer up to the one at fault. -/
theorem Seated.records_of_error (h : s.Seated) (he : s.tick.result = .error e) :
    ∃ site, e.site? = some site ∧ site.pointer < s.pointers.length ∧
      recordsOf .debug s.tick.events = (List.range (site.pointer + 1)).map s.command := by
  obtain ⟨k, p, f, hk, hcut, hstop⟩ := exists_cut he
  obtain ⟨site, hsite, hid⟩ := hstop.site
  obtain rfl : site.pointer = k := hid.trans (h k p hk).1
  obtain ⟨hlt, -⟩ := List.getElem?_eq_some_iff.1 hk
  have hevents : s.tick.events = (List.range (site.pointer + 1)).flatMap s.turn := by
    rw [tick_eq, pass_of_stops hk hcut hstop, List.range_succ, List.flatMap_append,
      List.flatMap_singleton, turn_of_stops hk hstop,
      ← events_cut_eq fun j hj => cut_pass_of_le hcut hj.le]
  exact ⟨site, hsite, hlt, by rw [hevents, h.records_turns hlt]⟩

end

/-! ### One run -/

section

variable [Sink σ] {program : Program} {sink : σ} {limit : Option Nat} {s : Execution σ}
  {us : List (Execution σ)} {r : Run σ} {e : RunError} {i n t : Nat}

/-- In the run from `s` that ends as `r`, pointer `i` announces a command in tick `t + 1`. -/
def Announces (s : Execution σ) (r : Run σ) (t i : Nat) : Prop :=
  i < s.pointers.length ∧ t < r.final.ticks ∨
    t = r.final.ticks ∧ ∃ e site, r.result = .error e ∧ e.site? = some site ∧ i ≤ site.pointer

/-- The commands and the ends of `n` ticks from `s` that get done. -/
def rounds (s : Execution σ) (n : Nat) : List Log.Record :=
  (List.range n).flatMap fun t =>
    (List.range s.pointers.length).map (s.after t).command ++ [(s.after (t + 1)).summary (t + 1)]

/-- What comes in the log after these: that the program has halted, or the commands up to that of
the pointer at fault. -/
def ending (s : Execution σ) (r : Run σ) : List Log.Record :=
  match r.result with
  | .ok _ => [⟨.info, .scheduler, "halted", [("ticks", toString r.final.ticks)], false⟩]
  | .error e =>
    match e.site? with
    | none => []
    | some site => (List.range (site.pointer + 1)).map (s.after r.final.ticks).command

/-- The log of the run from `s` that ends as `r`. -/
def chronicle (s : Execution σ) (r : Run σ) : List Log.Record :=
  ⟨.info, .scheduler, "run start", [("pointers", toString s.pointers.length)], false⟩ ::
    s.rounds r.final.ticks ++ s.ending r

/-- In ticks that get done from the start of a program, everybody keeps a seat. -/
theorem GetsDone.seated (hp : program.Built) (hs : ofProgram program sink limit = s)
    (h : s.GetsDone n) : (s.after n).Seated ∧ (s.after n).ticks = n ∧
      (s.after n).pointers.length = program.pointers.length := by
  subst hs
  have hplaced := h.placed hp
  refine ⟨fun i p hi => ⟨hplaced.id_eq hp hi, ?_⟩, h.ticks_after.trans (Nat.zero_add n),
    hplaced.pointers.length_eq⟩
  rw [hplaced.cell_isSome_iff hp hi]
  exact nofun

theorem GetsDone.records_eq (hp : program.Built) (hs : ofProgram program sink limit = s)
    (h : s.GetsDone n) :
    recordsOf .debug ((List.range n).flatMap fun t => (s.after t).tick.events) = s.rounds n := by
  rw [recordsOf_flatMap, rounds]
  refine List.flatMap_congr fun t ht => ?_
  have hlt := List.mem_range.1 ht
  obtain ⟨hseated, hticks, hlen⟩ := (h.of_le hlt.le).seated hp hs
  have hstart : s.pointers.length = program.pointers.length := hs ▸ rfl
  rw [hseated.records_of_done (h.pass_eq_none hlt), hticks, hlen, hstart]
  rfl

/-- A run from the start of a program, by the number of its ticks that got done. -/
theorem Runs.getsDone_of_start (hs : ofProgram program sink limit = s) (h : s.Runs us r) :
    s.GetsDone r.final.ticks ∧ (us.length = r.final.ticks ∧
        (r.result = .ok r.final.ticks ∨ r.result = .error (.outOfTicks r.final.ticks)) ∨
      ∃ e, us.length = r.final.ticks + 1 ∧ (s.after r.final.ticks).tick.result = .error e ∧
        r.result = .error e) := by
  obtain ⟨n, hdone, hticks, hend⟩ := h.getsDone
  have hzero : s.ticks = 0 := hs ▸ rfl
  rw [hzero, Nat.zero_add] at hticks
  subst hticks
  exact ⟨hdone, hend⟩

/-- **The log of a run** is one round of commands after the other. -/
theorem records_seen (hp : program.Built) (hs : ofProgram program sink limit = s)
    (h : s.Runs us r) : recordsOf .debug (s.seen us r) = s.chronicle r := by
  obtain ⟨hdone, hend⟩ := h.getsDone_of_start hs
  have hrounds := hdone.records_eq hp hs
  have hrest : recordsOf .debug (us.flatMap (·.tick.events) ++ r.closing) =
      s.rounds r.final.ticks ++ s.ending r := by
    rw [recordsOf_append, h.states_eq.1, List.flatMap_map]
    rcases hend with ⟨hlen, hresult⟩ | ⟨e, hlen, he, hresult⟩
    · rw [hlen, hrounds, Run.closing, ending]
      rcases hresult with hresult | hresult <;> rw [hresult] <;> rfl
    · -- the ticks that got done, and the one that fails
      obtain ⟨site, hsite, -, hfails⟩ := (hdone.seated hp hs).1.records_of_error he
      rw [hlen, List.range_succ, List.flatMap_append, recordsOf_append, hrounds,
        List.flatMap_singleton, hfails, Run.closing, ending, hresult]
      dsimp only
      rw [hsite]
      exact List.append_nil _
  exact (recordsOf_append .debug [.started s.pointers.length] _).trans (congrArg _ hrest)

/-- A run that fails at a site has failed in the tick after those that got done, at one of the
pointers. -/
theorem Runs.fails_at {site : Site} (hp : program.Built) (hs : ofProgram program sink limit = s)
    (h : s.Runs us r) (he : r.result = .error e) (hsite : e.site? = some site) :
    (s.after r.final.ticks).tick.result = .error e ∧
      site.pointer < program.pointers.length := by
  obtain ⟨hdone, hend⟩ := h.getsDone_of_start hs
  rcases hend with ⟨-, hend | hend⟩ | ⟨e', -, he', hend⟩
  · rw [hend] at he
    cases he
  · rw [hend] at he
    cases he
    cases hsite
  · obtain rfl : e' = e := Except.error.inj (hend.symm.trans he)
    obtain ⟨hseated, -, hlen⟩ := hdone.seated hp hs
    obtain ⟨site', hsite', hlt, -⟩ := hseated.records_of_error he'
    obtain rfl : site = site' := Option.some.inj (hsite.symm.trans hsite')
    rw [hlen] at hlt
    exact ⟨he', hlt⟩

/-- Those who announce a command are pointers that there are, in ticks of the run. -/
theorem Announces.lt (hp : program.Built) (hs : ofProgram program sink limit = s) (h : s.Runs us r)
    (hi : s.Announces r t i) : t ≤ r.final.ticks ∧ i < program.pointers.length := by
  have hstart : s.pointers.length = program.pointers.length := hs ▸ rfl
  rcases hi with ⟨hi, ht⟩ | ⟨rfl, e, site, he, hsite, hi⟩
  · exact ⟨ht.le, hstart ▸ hi⟩
  · exact ⟨le_rfl, hi.trans_lt (h.fails_at hp hs he hsite).2⟩

theorem Runs.exists_pointer (hp : program.Built) (hs : ofProgram program sink limit = s)
    (h : s.Runs us r) (ht : t ≤ r.final.ticks) (hi : i < program.pointers.length) :
    ∃ p, (s.after t).pointers[i]? = some p ∧ p.id = i ∧ p.pos = (s.after t).place i ∧
      s.grid.cell p.pos = some ((s.after t).under i) := by
  obtain ⟨hdone, -⟩ := h.getsDone_of_start hs
  obtain ⟨hseated, -, hlen⟩ := (hdone.of_le ht).seated hp hs
  rw [← hlen] at hi
  have hp := List.getElem?_eq_getElem hi
  refine ⟨_, hp, (hseated i _ hp).1, (place_eq hp).symm, ?_⟩
  rw [← grid_after s t]
  exact hseated.cell_eq hp

theorem place_of_moves {p : Pointer} {f : Scene σ} (hi : s.pointers[i]? = some p)
    (hcut : (s.cut i).pass.error? = none)
    (hf : Scene.Moves s.grid ⟨(s.cut i).pass.shared, p, []⟩ f)
    (hnext : s.tick.next.pointers[i]? = some f.pointer) :
    ∃ m, s.Executes i p m ∧ s.grid.wrap m.pointer.bias (s.place i + m.pointer.velocity) =
      some (s.tick.next.place i) := by
  obtain ⟨hm, hland⟩ := hf
  rw [place_eq hnext, place_eq hi, ← show _ = p.pos from hm.pos_eq]
  refine ⟨_, ⟨hi, result_ok_iff.2 hcut, ?_⟩, hland⟩
  rw [toShared_next]
  exact hm

/-- In a tick that gets done, a pointer executes its cell and lands on that of its next command. -/
theorem Runs.exists_executes (hp : program.Built) (hs : ofProgram program sink limit = s)
    (h : s.Runs us r) (ht : t < r.final.ticks) (hi : i < program.pointers.length) :
    ∃ p m, (s.after t).Executes i p m ∧
      s.grid.wrap m.pointer.bias ((s.after t).place i + m.pointer.velocity) =
        some ((s.after (t + 1)).place i) := by
  obtain ⟨hdone, -⟩ := h.getsDone_of_start hs
  obtain ⟨p, hpi, -⟩ := h.exists_pointer hp hs ht.le hi
  obtain ⟨hcut, f, hf, hnext⟩ := exists_move (hdone.pass_eq_none ht) hpi
  obtain ⟨m, hm, hland⟩ := place_of_moves hpi hcut hf hnext
  rw [grid_after] at hland
  exact ⟨p, m, hm, hland⟩

/-- The run from `s`, the start of `program`, has ended as `r`, and load and run have left this log:
`n` pointers and `t` completed ticks are `program.pointers.length` and `r.final.ticks`. -/
structure Chronicle (program : Program) (s : Execution σ) (r : Run σ) (log : List Log.Record) :
    Prop where
  /-- First the load, then the start and the rounds, each with its commands and its end, and what
  comes of the run. -/
  order : log = ⟨.info, .grid, "loaded program", [("rows", toString program.grid.height),
    ("pointers", toString program.pointers.length)], false⟩ :: s.chronicle r
  /-- The rounds are numbered, and all pointers take part. -/
  count : ∀ t ≤ r.final.ticks,
    (s.after t).ticks = t ∧ (s.after t).pointers.length = program.pointers.length
  halts : ∀ ticks, r.result = .ok ticks → ticks = r.final.ticks
  fails : ∀ e site, r.result = .error e → e.site? = some site →
    (s.after r.final.ticks).tick.result = .error e ∧ site.pointer < program.pointers.length
  /-- What is said about a command is true of the pointer. -/
  announced : ∀ t i, s.Announces r t i → ∃ p, (s.after t).pointers[i]? = some p ∧ p.id = i ∧
    p.pos = (s.after t).place i ∧ s.grid.cell p.pos = some ((s.after t).under i)
  first : ∀ (i : Nat) (p : Pointer), program.pointers[i]? = some p → s.place i = p.origin
  /-- A pointer comes to its next command with the velocity that it has after the one before. -/
  later : ∀ t i, s.Announces r (t + 1) i → ∃ p m, (s.after t).Executes i p m ∧
    s.grid.wrap m.pointer.bias ((s.after t).place i + m.pointer.velocity) =
      some ((s.after (t + 1)).place i)
  /-- Every record of a command shows the glyph of its cell and what the glyph stands for. -/
  commands : ∀ record ∈ log, record.message = "command" → ∃ (i : Nat) (pos : Vec) (glyph : Char),
    record.fields = [("pointer", toString i), ("x", toString pos.x), ("y", toString pos.y),
      ("glyph", glyph.toString), ("op", Text.quoted (Instruction.ofGlyph glyph).mnemonic)] ∧
    s.grid.cell pos = some glyph

/-- The commands of a chronicle are those that are announced. -/
theorem announces_of_mem_chronicle {record : Log.Record} (h : record ∈ s.chronicle r)
    (hmessage : record.message = "command") :
    ∃ t i, s.Announces r t i ∧ record = (s.after t).command i := by
  rw [chronicle, rounds, List.cons_append, List.mem_cons, List.mem_append, List.mem_flatMap] at h
  rcases h with rfl | ⟨t, ht, h⟩ | h
  · simp at hmessage
  · rcases List.mem_append.1 h with h | h
    · obtain ⟨i, hi, rfl⟩ := List.mem_map.1 h
      exact ⟨t, i, Or.inl ⟨List.mem_range.1 hi, List.mem_range.1 ht⟩, rfl⟩
    · obtain rfl := List.mem_singleton.1 h
      simp [summary] at hmessage
  · rw [ending] at h
    split at h
    · obtain rfl := List.mem_singleton.1 h
      simp at hmessage
    · next e he =>
      split at h
      · cases h
      · next site hsite =>
        obtain ⟨i, hi, rfl⟩ := List.mem_map.1 h
        exact ⟨_, i, Or.inr ⟨rfl, e, site, he, hsite, Nat.le_of_lt_succ (List.mem_range.1 hi)⟩, rfl⟩

/-- **Round-robin, as the log shows it.**  A source that loads and whose run ends leaves a log of
the loading, the start, and in each tick one command for each pointer, in the order of their
numbers, and the end of the tick.  A run that fails in a tick leaves the commands up to the pointer
at fault, one that halts says so.  From one command of a pointer to its next, the pointer has gone
on by the velocity with which it has left the cell. -/
theorem log_is_chronicle {source : String} (hload : Program.load source = .ok program)
    (hs : ofProgram program sink limit = s) (hr : s.run? = some r) :
    ∃ events, tracedFrom source sink limit = (.ok (some r), events) ∧
      Chronicle program s r (recordsOf .debug events.toList) := by
  have hp : program.Built := .load source hload
  obtain ⟨us, hus⟩ := exists_runs hr
  obtain ⟨hdone, hend⟩ := hus.getsDone_of_start hs
  have hannounced : ∀ t i, s.Announces r t i → ∃ p, (s.after t).pointers[i]? = some p ∧ p.id = i ∧
      p.pos = (s.after t).place i ∧ s.grid.cell p.pos = some ((s.after t).under i) := by
    intro t i h
    obtain ⟨ht, hi⟩ := h.lt hp hs hus
    exact hus.exists_pointer hp hs ht hi
  have htraced := tracedFrom_eq hload (hs ▸ hr)
  rw [hs, traced_eq hr hus] at htraced
  have horder : recordsOf .debug (program.loadedEvent :: s.seen us r) = _ :=
    (recordsOf_append .debug [program.loadedEvent] _).trans
      (congrArg (_ ++ ·) (records_seen hp hs hus))
  refine ⟨_, htraced, ?_⟩
  rw [Array.toList_append]
  refine ⟨horder, fun t ht => ?_, fun ticks hok => ?_,
    fun e site he hsite => hus.fails_at hp hs he hsite, hannounced, fun i p hi => ?_,
    fun t i h => ?_, fun record hmem hmessage => ?_⟩
  · exact ((hdone.of_le ht).seated hp hs).2
  · rcases hend with ⟨-, hend | hend⟩ | ⟨e', -, -, hend⟩ <;> rw [hend] at hok <;> cases hok
    rfl
  · subst hs
    rw [place_eq hi, (hp.spawned (List.mem_of_getElem? hi)).origin]
  · obtain ⟨ht, hi⟩ := h.lt hp hs hus
    exact hus.exists_executes hp hs ht hi
  · have hmem' := horder ▸ hmem
    rcases List.mem_cons.1 hmem' with rfl | hmem'
    · simp at hmessage
    · obtain ⟨t, i, h, rfl⟩ := announces_of_mem_chronicle hmem' hmessage
      obtain ⟨p, -, -, hpos, hcell⟩ := hannounced t i h
      rw [hpos] at hcell
      exact ⟨i, _, _, rfl, hcell⟩

/-- `scarce`, from its source: the second tick fails at the last of the three pointers. -/
theorem scarce_chronicle : ∃ s r log, ofProgram .scarce Transcript.empty none = s ∧
    Program.load "ᛍᛍᛍ\nᛧᛟᛟ" = .ok .scarce ∧ s.run? = some r ∧
    r.result = .error (.faulted .emptyStack ⟨2, ⟨2, 1⟩, some 'ᛟ'⟩ 2) ∧
    Chronicle .scarce s r log ∧
    log.map (fun record => (record.message, record.fields.map Prod.snd)) =
      [("loaded program", ["2", "3"]), ("run start", ["3"]),
        ("command", ["0", "0", "0", "ᛍ", "\"nop\""]), ("command", ["1", "1", "0", "ᛍ", "\"nop\""]),
        ("command", ["2", "2", "0", "ᛍ", "\"nop\""]),
        ("pointer vars", ["1", "ᚠᚠᚠ", "Some(Some(0))"]),
        ("command", ["0", "0", "1", "ᛧ", "\"end\""]), ("command", ["1", "1", "1", "ᛟ", "\"add\""]),
        ("command", ["2", "2", "1", "ᛟ", "\"add\""])] := by
  have hload : Program.load "ᛍᛍᛍ\nᛧᛟᛟ" = .ok .scarce := rfl
  have hr : (ofProgram .scarce Transcript.empty none).run? = some _ := rfl
  obtain ⟨events, -, hlog⟩ := log_is_chronicle hload rfl hr
  refine ⟨_, _, _, rfl, hload, hr, rfl, hlog, ?_⟩
  rw [hlog.order]
  decide +kernel

example : (recordsOf .debug (tracedFrom "ᛌ1ᛧ" Transcript.empty none).2.toList).map (·.plain) =
    [" INFO loaded program rows=1 pointers=1", " INFO run start pointers=1",
      "DEBUG command pointer=0 x=0 y=0 glyph=ᛌ op=\"nop\"",
      "DEBUG pointer vars tick=1 registers=ᚠ stack_top=Some(Some(0))",
      "DEBUG command pointer=0 x=1 y=0 glyph=1 op=\"digit\"",
      "DEBUG pointer vars tick=2 registers=ᚢ stack_top=Some(Some(0))",
      "DEBUG command pointer=0 x=2 y=0 glyph=ᛧ op=\"end\"",
      "DEBUG pointer vars tick=3 registers=ᚢ stack_top=Some(Some(0))", " INFO halted ticks=3"] := by
  decide +kernel

end

end Execution

end RuneGrid
