import RuneGrid.Proofs.Execution.Stepping
import RuneGrid.Report

/-!
# Who halts a program

A program has halted if and only if some tick has executed an `end` cell
(`Course.halted_iff`).  That tick need not have got done: the pointer on the `end` cell sets
the flag in its turn, and a pointer after it, or its own way off the page, may still fail the
tick.  Nothing takes the flag back, so that the next run ends at once and reports success.

`Course` is a session that keeps the states in which it ticks.  `halted_iff_executesEnd` draws
the line on it: where no failed tick has executed an `end` cell, a program has halted only by a
tick that has got done and counts.
-/

namespace RuneGrid

variable {σ : Type} [Sink σ]

/-! ### In a pass -/

namespace Pass

variable {g : Grid} {tick : Nat} {ps : List Pointer} {p : Pointer} {shared : Shared σ}
  {f : Scene σ} {e : RunError}

/-- Some pointer gets its turn and stands on an `end` cell. -/
def ReachesEnd (g : Grid) (tick : Nat) (ps : List Pointer) (shared : Shared σ) : Prop :=
  ∃ pre p post, ps = pre ++ p :: post ∧ (run g tick pre shared).error? = none ∧ IsOnEnd g p

theorem reachesEnd_cons_of_moves (h : Scene.Moves g ⟨shared, p, []⟩ f) :
    ReachesEnd g tick (p :: ps) shared ↔ IsOnEnd g p ∨ ReachesEnd g tick ps f.toShared := by
  constructor
  · rintro ⟨_ | ⟨p', pre⟩, q, post, hsplit, hpre, hend⟩
    · cases hsplit
      exact Or.inl hend
    · cases hsplit
      rw [run_cons_of_moves h] at hpre
      exact Or.inr ⟨pre, q, post, rfl, hpre, hend⟩
  · rintro (hend | ⟨pre, q, post, rfl, hpre, hend⟩)
    · exact ⟨[], p, ps, rfl, rfl, hend⟩
    · refine ⟨p :: pre, q, post, rfl, ?_, hend⟩
      rw [run_cons_of_moves h]
      exact hpre

theorem reachesEnd_cons_of_stops (h : Scene.Stops g tick ⟨shared, p, []⟩ e f) :
    ReachesEnd g tick (p :: ps) shared ↔ IsOnEnd g p := by
  constructor
  · rintro ⟨_ | ⟨p', pre⟩, q, post, hsplit, hpre, hend⟩
    · cases hsplit
      exact hend
    · cases hsplit
      rw [run_cons_of_stops h] at hpre
      cases hpre
  · exact fun hend => ⟨[], p, ps, rfl, rfl, hend⟩

/-- **A pass halts the program if and only if it reaches an `end` cell**, whether or not it gets
through. -/
theorem halted_iff : (run g tick ps shared).shared.halted = true ↔
    shared.halted = true ∨ ReachesEnd g tick ps shared := by
  induction ps generalizing shared with
  | nil => simp [run, ReachesEnd]
  | cons p ps ih =>
    rcases Scene.moves_or_stops g tick ⟨shared, p, []⟩ with ⟨m, hm⟩ | ⟨e, m, hm⟩
    · rw [run_cons_of_moves hm, ih, hm.halted, reachesEnd_cons_of_moves hm, Bool.or_eq_true,
        beq_iff_eq, or_assoc]
      rfl
    · rw [run_cons_of_stops hm, hm.halted, reachesEnd_cons_of_stops hm, Bool.or_eq_true,
        beq_iff_eq]
      rfl

end Pass

/-! ### In a tick -/

namespace Execution

variable {s t : Execution σ} {us ts : List (Execution σ)} {r : Run σ} {e : RunError}

/-- In the tick of `s`, some pointer gets its turn on an `end` cell and executes it. -/
def ExecutesEnd (s : Execution σ) : Prop :=
  ∃ k p m, s.Executes k p m ∧ (s.grid.cell p.pos).map Instruction.ofGlyph = some .finish

/-- Nothing keeps a pointer on an `end` cell from executing it. -/
theorem executes_of_isOnEnd {g : Grid} {f : Scene σ} (h : Pass.IsOnEnd g f.pointer) :
    ∃ m, Scene.Executes g f m := by
  obtain ⟨glyph, hc, hend⟩ := Option.map_eq_some_iff.1 h
  have heffect := (Instruction.Completes.finish
    (f.note (.command f.pointer.id f.pointer.pos glyph))).effect_eq
  rw [← hend] at heffect
  exact ⟨_, glyph, hc, heffect⟩

theorem executesEnd_iff_reachesEnd :
    s.ExecutesEnd ↔ Pass.ReachesEnd s.grid (s.ticks + 1) s.pointers s.toShared := by
  constructor
  · rintro ⟨k, p, m, hm, hend⟩
    exact ⟨_, p, _, eq_take_append_cons_drop hm.pointer, result_ok_iff.1 hm.reached, hend⟩
  · rintro ⟨pre, p, post, hsplit, hpre, hend⟩
    have hcut : s.pointers.take pre.length = pre := by
      rw [hsplit, List.take_left]
    obtain ⟨m, hm⟩ := executes_of_isOnEnd
      (f := ⟨(s.cut pre.length).tick.next.toShared, p, []⟩) hend
    refine ⟨pre.length, p, m, ⟨?_, ?_, hm⟩, hend⟩
    · rw [hsplit]
      simp
    · rw [result_ok_iff, pass, cut, hcut]
      exact hpre

/-- **A tick halts the program if and only if it executes an `end` cell**, whether or not it gets
done. -/
theorem halted_next_iff : s.tick.next.halted = true ↔ s.halted = true ∨ s.ExecutesEnd := by
  rw [toShared_next, executesEnd_iff_reachesEnd]
  exact Pass.halted_iff

/-- The tick of `s` gets done, counts, and executes an `end` cell. -/
structure CommitsEnd (s : Execution σ) : Prop where
  done : ∃ halted, s.tick.result = .ok halted
  counts : s.tick.next.ticks = s.ticks + 1
  executes : s.ExecutesEnd

/-- The tick of `s` fails, but not before it has executed an `end` cell. -/
structure FailsPastEnd (s : Execution σ) : Prop where
  fails : ∃ e, s.tick.result = .error e
  executes : s.ExecutesEnd

theorem commitsEnd_of_ok {halted : Bool} (h : s.tick.result = .ok halted) (hend : s.ExecutesEnd) :
    s.CommitsEnd :=
  ⟨⟨halted, h⟩, ticks_next_of_ok h, hend⟩

theorem executesEnd_iff : s.ExecutesEnd ↔ s.CommitsEnd ∨ s.FailsPastEnd := by
  constructor
  · intro hend
    cases h : s.tick.result with
    | ok halted => exact Or.inl (commitsEnd_of_ok h hend)
    | error e => exact Or.inr ⟨⟨e, h⟩, hend⟩
  · rintro (h | h)
    · exact h.executes
    · exact h.executes

/-! ### In a run -/

/-- A run ends in a halted program if it starts in one or one of its ticks executes an `end`
cell. -/
theorem Runs.halted_iff (h : s.Runs us r) :
    r.final.halted = true ↔ s.halted = true ∨ ∃ u ∈ us, u.ExecutesEnd := by
  induction h with
  | halted => simp
  | spent => simp
  | fails =>
    rw [halted_next_iff]
    simp
  | goesOn _ _ _ _ ih =>
    rw [ih, halted_next_iff, or_assoc]
    simp

/-- A run that does not fail has no failed ticks. -/
theorem Runs.done_of_ok (h : s.Runs us r) {n : Nat} (hr : r.result = .ok n) :
    r.final.halted = true ∧ ∀ u ∈ us, ∃ halted, u.tick.result = .ok halted := by
  induction h with
  | halted hh => exact ⟨hh, nofun⟩
  | spent => cases hr
  | fails => cases hr
  | goesOn _ _ hok _ ih =>
    obtain ⟨hh, hall⟩ := ih hr
    exact ⟨hh, List.forall_mem_cons.2 ⟨⟨_, hok⟩, hall⟩⟩

/-- A run that fails ends in a halted program if and only if the tick that fails it executes an
`end` cell. -/
theorem Runs.halted_iff_of_error (h : s.Runs us r) (hr : r.result = .error e) :
    r.final.halted = true ↔ ∃ u ∈ us, u.FailsPastEnd := by
  induction h with
  | halted => cases hr
  | spent hh => simp [hh]
  | @fails s e hh _ he =>
    have hiff : s.ExecutesEnd ↔ s.FailsPastEnd :=
      ⟨fun hend => ⟨⟨e, he⟩, hend⟩, fun hpast => hpast.executes⟩
    rw [halted_next_iff, hiff]
    simp [hh]
  | @goesOn s us r halted _ _ hok _ ih =>
    have hnot : ¬ s.FailsPastEnd := by
      rintro ⟨⟨e, he⟩, -⟩
      rw [hok] at he
      cases he
    rw [ih hr]
    simp [hnot]

/-! ### In a session -/

/-- Some calls of `tick` and `run?` lead from `s` to `t`, and tick in the states `us`. -/
inductive Course (s : Execution σ) : List (Execution σ) → Execution σ → Prop
  | start : Course s [] s
  | tick {us : List (Execution σ)} {t : Execution σ} (prior : Course s us t) :
    Course s (us ++ [t]) t.tick.next
  | run {us ts : List (Execution σ)} {t : Execution σ} {r : Run σ} (prior : Course s us t)
    (ends : t.run? = some r) (ticked : t.Runs ts r) : Course s (us ++ ts) r.final

namespace Course

/-- The states in which a session ticks come one after the other, as in a run. -/
theorem states_eq (h : s.Course us t) :
    us = (List.range us.length).map s.after ∧ t = s.after us.length := by
  induction h with
  | start => exact ⟨rfl, rfl⟩
  | @tick us t _ ih =>
    obtain ⟨hus, rfl⟩ := ih
    rw [List.length_append, List.length_singleton, List.range_succ, List.map_append, ← hus]
    exact ⟨rfl, rfl⟩
  | @run us ts t r _ _ hts ih =>
    obtain ⟨hus, rfl⟩ := ih
    obtain ⟨hts, hfinal⟩ := hts.states_eq
    rw [after_after] at hfinal
    rw [List.length_append, List.range_add, List.map_append, List.map_map, ← hus]
    refine ⟨congrArg (us ++ ·) (hts.trans (List.map_congr_left fun k _ => ?_)), hfinal⟩
    exact after_after s us.length k

theorem eq_after_of_getElem? {u : Execution σ} {i : Nat} (h : s.Course us t)
    (hi : us[i]? = some u) : u = s.after i := by
  rw [h.states_eq.1, List.getElem?_map, Option.map_eq_some_iff] at hi
  obtain ⟨j, hj, rfl⟩ := hi
  obtain ⟨hlt, hget⟩ := List.getElem?_eq_some_iff.1 hj
  rw [← hget, List.getElem_range]

/-- A session could have ended in each of the states in which it ticks. -/
theorem exists_session {u : Execution σ} (h : s.Course us t) (hu : u ∈ us ++ [t]) :
    ∃ es, s.Session es u := by
  obtain ⟨hus, ht⟩ := h.states_eq
  rw [hus, ht, List.mem_append, List.mem_map, List.mem_singleton] at hu
  rcases hu with ⟨k, -, rfl⟩ | rfl
  · exact exists_session_after s k
  · exact exists_session_after s us.length

/-- **A program has halted if and only if one of its ticks has executed an `end` cell.** -/
theorem halted_iff (h : s.Course us t) :
    t.halted = true ↔ s.halted = true ∨ ∃ u ∈ us, u.ExecutesEnd := by
  induction h with
  | start => simp
  | tick _ ih =>
    rw [halted_next_iff, ih, or_assoc]
    simp [or_and_right, exists_or]
  | run _ _ hts ih =>
    rw [hts.halted_iff, ih, or_assoc]
    simp [or_and_right, exists_or]

/-- From the start of a program: that tick has got done and counts, or it has failed. -/
theorem halted_iff_of_start {program : Program} {sink : σ} {limit : Option Nat}
    (h : (ofProgram program sink limit).Course us t) :
    t.halted = true ↔ (∃ u ∈ us, u.CommitsEnd) ∨ ∃ u ∈ us, u.FailsPastEnd := by
  rw [h.halted_iff]
  simp [ofProgram, executesEnd_iff, and_or_left, exists_or]

end Course

variable {program : Program} {sink : σ} {limit : Option Nat}

/-- **Who halts a program.**  After any calls, a program has halted if and only if a tick that has
got done or a tick that has failed has executed an `end` cell.  So a run that succeeds follows upon
such a tick or contains one that has got done, and the report of a run from the start that has
failed says that the program has halted if and only if the tick that failed it had executed an `end`
cell. -/
theorem halted_iff_executesEnd (h : (ofProgram program sink limit).Course us t) :
    (t.halted = true ↔ (∃ u ∈ us, u.CommitsEnd) ∨ ∃ u ∈ us, u.FailsPastEnd) ∧
    (∀ ts r n, t.run? = some r → t.Runs ts r → r.result = .ok n →
      (∃ u ∈ us ++ ts, u.CommitsEnd) ∨ ∃ u ∈ us, u.FailsPastEnd) ∧
    ∀ ts r e, (ofProgram program sink limit).run? = some r →
      (ofProgram program sink limit).Runs ts r → r.result = .error e →
      ((Report.ofRun r).halted = true ↔ ∃ u ∈ ts, u.FailsPastEnd) := by
  refine ⟨h.halted_iff_of_start, fun ts r n hr hts hn => ?_, fun ts r e _ hts he => ?_⟩
  · obtain ⟨hh, hdone⟩ := hts.done_of_ok hn
    rcases (h.run hr hts).halted_iff_of_start.1 hh with hc | ⟨u, hu, hf⟩
    · exact Or.inl hc
    · -- the ticks of a run that succeeds do not fail
      rcases List.mem_append.1 hu with hu | hu
      · exact Or.inr ⟨u, hu, hf⟩
      · obtain ⟨⟨e, he⟩, -⟩ := hf
        obtain ⟨halted, hok⟩ := hdone u hu
        rw [hok] at he
        cases he
  · exact hts.halted_iff_of_error he

/-- The second tick of `scarce` fails and leaves the program halted, so it has executed an `end`
cell. -/
theorem scarce_fails_past_end : ∃ us t, (ofProgram .scarce Transcript.empty none).Course us t ∧
    t.halted = true ∧ ((∃ u ∈ us, u.CommitsEnd) ∨ ∃ u ∈ us, u.FailsPastEnd) ∧
    ∃ ts r e, (ofProgram .scarce Transcript.empty none).run? = some r ∧
      (ofProgram .scarce Transcript.empty none).Runs ts r ∧ r.result = .error e ∧
      (Report.ofRun r).halted = true ∧ ∃ u ∈ ts, u.FailsPastEnd := by
  have h : (ofProgram .scarce Transcript.empty none).Course _ _ := .tick (.tick .start)
  have hr : (ofProgram .scarce Transcript.empty none).run? = some _ := rfl
  obtain ⟨ts, hts⟩ := exists_runs hr
  obtain ⟨hiff, -, hreport⟩ := halted_iff_executesEnd h
  exact ⟨_, _, h, rfl, hiff.1 rfl, ts, _, _, hr, hts, rfl, rfl, (hreport ts _ _ hr hts rfl).1 rfl⟩

/-- Two ticks of `scarce` leave the program halted without one that has executed an `end` cell and
got done; the next run succeeds at once.  A run from the start fails, and its report says that the
program has halted. -/
theorem scarce_halts_uncommitted :
    (∃ us t, (ofProgram .scarce Transcript.empty none).Course us t ∧ t.halted = true ∧
      (¬ ∃ u ∈ us, u.CommitsEnd) ∧
      ∃ r, t.run? = some r ∧ r.result = .ok 1 ∧ t.Runs [] r) ∧
    ∃ r e, (ofProgram .scarce Transcript.empty none).run? = some r ∧ r.result = .error e ∧
      (Report.ofRun r).halted = true := by
  have h : (ofProgram .scarce Transcript.empty none).Course _ _ := .tick (.tick .start)
  have hfirst : ¬ (ofProgram .scarce Transcript.empty none).ExecutesEnd := by
    intro hend
    have hh : (ofProgram .scarce Transcript.empty none).tick.next.halted = true :=
      halted_next_iff.2 (Or.inr hend)
    cases hh
  refine ⟨⟨_, _, h, rfl, ?_, _, rfl, rfl, .halted rfl⟩, _, _, rfl, rfl, rfl⟩
  rintro ⟨u, hu, hc⟩
  simp only [List.nil_append, List.mem_append, List.mem_singleton] at hu
  rcases hu with rfl | rfl
  · exact hfirst hc.executes
  · obtain ⟨halted, hok⟩ := hc.done
    cases hok

end Execution

end RuneGrid
