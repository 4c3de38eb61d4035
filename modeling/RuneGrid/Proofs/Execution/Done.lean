import RuneGrid.Proofs.Execution.Stepping

/-!
# Ticks that get done

In a tick that gets done every pointer moves, and `exists_move` gives the move of one of them, from
what the pointers before it have left.  What is seen of the tick is what is seen of the turns, one
after the other (`events_cut_eq`).

`s.GetsDone n` says that the next `n` ticks from `s` all get done, whether or not they halt the
program.  A run is a number of such ticks, and then it ends or fails one more (`Runs.getsDone`).  It
ticks wherever its ticks go on and its limit is not reached (`Runs.getElem?_of_goesOn`).
-/

namespace RuneGrid

variable {σ : Type} [Sink σ]

namespace Pass

variable {g : Grid} {n : Nat} {pre post : List Pointer} {p : Pointer} {shared : Shared σ}

/-- A pass that gets through has got through the first pointers. -/
theorem done_of_append (h : (run g n (pre ++ post) shared).error? = none) :
    (run g n pre shared).error? = none := by
  cases he : (run g n pre shared).error? with
  | none => rfl
  | some e =>
    obtain ⟨before, q, after, f, rfl, hdone, hs⟩ := exists_stop he
    rw [List.append_assoc, List.cons_append, run_of_stops hdone hs] at h
    cases h

/-- What every move keeps of the shared state, a pass that gets through keeps. -/
theorem shared_of_done {I : Shared σ → Prop}
    (moves : ∀ f f' : Scene σ, Scene.Moves g f f' → I f.toShared → I f'.toShared)
    (hdone : (run g n pre shared).error? = none) (h : I shared) :
    I (run g n pre shared).shared := by
  induction pre generalizing shared with
  | nil => exact h
  | cons p ps ih =>
    rcases Scene.moves_or_stops g n ⟨shared, p, []⟩ with ⟨m, hm⟩ | ⟨e, m, hm⟩
    · rw [run_cons_of_moves hm] at hdone ⊢
      exact ih hdone (moves _ _ hm h)
    · rw [run_cons_of_stops hm] at hdone
      cases hdone

/-- A pass gets through if each of its pointers moves, whatever the others have left it. -/
theorem done_of_forall {ps : List Pointer}
    (h : ∀ p ∈ ps, ∀ shared : Shared σ, ∃ f, Scene.Moves g ⟨shared, p, []⟩ f) :
    (run g n ps shared).error? = none := by
  cases he : (run g n ps shared).error? with
  | none => rfl
  | some e =>
    obtain ⟨pre, p, post, f, rfl, -, hstop⟩ := exists_stop he
    obtain ⟨m, hm⟩ := h p (by simp) (run g n pre shared).shared
    have hstep : Scene.step g n _ = .ok () m := hm.step_eq
    rw [hstop.step_eq] at hstep
    cases hstep

end Pass

namespace Execution

variable {s : Execution σ} {us : List (Execution σ)} {r : Run σ} {p : Pointer} {f : Scene σ}
  {e : RunError} {k m n : Nat}

/-- If the first `k` pointers get through, the tick goes on from there with pointer `k`. -/
theorem shared_pass_eq (hk : s.pointers[k]? = some p) (hcut : (s.cut k).pass.error? = none) :
    s.pass.shared = (Pass.run s.grid (s.ticks + 1) (p :: s.pointers.drop (k + 1))
      (s.cut k).pass.shared).shared := by
  have hrun : (Pass.run s.grid (s.ticks + 1) (s.pointers.take k ++ p :: s.pointers.drop (k + 1))
      s.toShared).shared = _ := congrArg Pass.shared (Pass.run_append_of_done hcut)
  rw [← eq_take_append_cons_drop hk] at hrun
  exact hrun

/-! ### One turn -/

/-- What is seen of the turn of pointer `k` in the next tick. -/
def turn (s : Execution σ) (k : Nat) : List Event :=
  (Pass.run s.grid (s.ticks + 1) s.pointers[k]?.toList (s.cut k).pass.shared).events

theorem turn_of_moves (hk : s.pointers[k]? = some p)
    (hf : Scene.Moves s.grid ⟨(s.cut k).pass.shared, p, []⟩ f) : s.turn k = f.events := by
  rw [turn, hk, Option.toList_some, Pass.run_cons_of_moves hf]
  exact List.append_nil _

theorem turn_of_stops (hk : s.pointers[k]? = some p)
    (hf : Scene.Stops s.grid (s.ticks + 1) ⟨(s.cut k).pass.shared, p, []⟩ e f) :
    s.turn k = f.events := by
  rw [turn, hk, Option.toList_some, Pass.run_cons_of_stops hf]

/-- **In a tick that gets done, every pointer has its turn and moves.** -/
theorem exists_move (h : s.pass.error? = none) (hk : s.pointers[k]? = some p) :
    (s.cut k).pass.error? = none ∧
      ∃ f, Scene.Moves s.grid ⟨(s.cut k).pass.shared, p, []⟩ f ∧
        s.tick.next.pointers[k]? = some f.pointer := by
  have hcut : (s.cut k).pass.error? = none := by
    rw [pass, eq_take_append_cons_drop hk] at h
    exact Pass.done_of_append h
  rcases Scene.moves_or_stops s.grid (s.ticks + 1) ⟨(s.cut k).pass.shared, p, []⟩ with
    ⟨f, hf⟩ | ⟨e, f, hf⟩
  · exact ⟨hcut, f, hf, next_of_moves hk hcut hf⟩
  · rw [pass_of_stops hk hcut hf] at h
    cases h

/-- The pass over the first `n` pointers gets through those before. -/
theorem cut_pass_of_le (h : (s.cut n).pass.error? = none) (hmn : m ≤ n) :
    (s.cut m).pass.error? = none := by
  have hsplit : s.pointers.take n = s.pointers.take m ++ (s.pointers.take n).drop m := by
    have htake := List.take_append_drop m (s.pointers.take n)
    rw [List.take_take, Nat.min_eq_left hmn] at htake
    exact htake.symm
  rw [pass, cut, hsplit] at h
  exact Pass.done_of_append h

/-- **What is seen of the first turns of a tick**, of which the last one may fail. -/
theorem events_cut_eq (h : ∀ j < k, (s.cut j).pass.error? = none) :
    (s.cut k).pass.events = (List.range k).flatMap s.turn := by
  induction k with
  | zero => rfl
  | succ k ih =>
    rw [List.range_succ, List.flatMap_append, ← ih fun j hj => h j (by omega), cut_succ]
    show (Pass.run (s.cut k).grid ((s.cut k).ticks + 1)
      ((s.cut k).pointers ++ s.pointers[k]?.toList) (s.cut k).toShared).events = _
    rw [Pass.run_append_of_done (h k (Nat.lt_succ_self k)), List.flatMap_singleton]
    rfl

/-! ### Several ticks -/

/-- The next `n` ticks all get done. -/
def GetsDone (s : Execution σ) (n : Nat) : Prop :=
  ∀ k < n, ∃ halted, (s.after k).tick.result = .ok halted

namespace GetsDone

theorem of_le (h : s.GetsDone n) (hmn : m ≤ n) : s.GetsDone m :=
  fun k hk => h k (by omega)

theorem next (h : s.GetsDone (n + 1)) : s.tick.next.GetsDone n := by
  intro k hk
  rw [after_next]
  exact h (k + 1) (by omega)

theorem succ (hfirst : ∃ halted, s.tick.result = .ok halted) (h : s.tick.next.GetsDone n) :
    s.GetsDone (n + 1) := by
  intro k hk
  cases k with
  | zero => exact hfirst
  | succ k =>
    rw [← after_next]
    exact h k (by omega)

theorem later (h : s.GetsDone n) (hk : m + k ≤ n) : (s.after m).GetsDone k := by
  intro j hj
  rw [after_after]
  exact h (m + j) (by omega)

theorem pass_eq_none (h : s.GetsDone n) (hk : k < n) : (s.after k).pass.error? = none :=
  result_ok_iff.1 (h k hk)

theorem first (h : s.GetsDone (n + 1)) : s.pass.error? = none :=
  h.pass_eq_none (Nat.succ_pos n)

theorem ticks_after (h : s.GetsDone n) : (s.after n).ticks = s.ticks + n := by
  induction n with
  | zero => rfl
  | succ n ih =>
    obtain ⟨halted, hok⟩ := h n (Nat.lt_succ_self n)
    rw [after, ticks_next_of_ok hok, ih (h.of_le (Nat.le_succ n))]
    rfl

/-- From the start of a program, nobody leaves the grid in ticks that get done. -/
theorem placed {program : Program} (hp : program.Built) {sink : σ} {limit : Option Nat}
    (h : (ofProgram program sink limit).GetsDone n) :
    Placed program [] ((ofProgram program sink limit).after n) := by
  induction n with
  | zero => exact .start hp sink limit
  | succ n ih =>
    obtain ⟨halted, hok⟩ := h n (Nat.lt_succ_self n)
    have ht := (ih (h.of_le (Nat.le_succ n))).tick hp
    rw [hok] at ht
    exact ht

end GetsDone

theorem GoesOn.getsDone (h : s.GoesOn n) : s.GetsDone n :=
  fun k hk => ⟨false, h k hk⟩

/-- A tick that goes on finds nobody on an `end` cell. -/
theorem not_isOnEnd_of_goesOn (h : s.tick.result = .ok false) (hp : p ∈ s.pointers) :
    ¬ Pass.IsOnEnd s.grid p := by
  intro hend
  have hdone : s.pass.error? = none := result_ok_iff.1 ⟨_, h⟩
  have hhalted : s.tick.next.halted = true := by
    rw [toShared_next]
    exact (Pass.halted_of_done hdone).2 (Or.inr ⟨p, hp, hend⟩)
  rw [halted_next_of_ok h] at hhalted
  cases hhalted

/-- A run does not tick in a state that has halted or whose limit is reached. -/
theorem Runs.running (h : s.Runs us r) (hk : k < us.length) :
    (s.after k).halted = false ∧ (s.after k).isSpent = false := by
  induction h generalizing k with
  | halted => cases hk
  | spent => cases hk
  | fails hh hs =>
    obtain rfl := Nat.lt_one_iff.1 hk
    exact ⟨hh, hs⟩
  | goesOn hh hs _ _ ih =>
    cases k with
    | zero => exact ⟨hh, hs⟩
    | succ k =>
      rw [← after_next]
      exact ih (Nat.lt_of_succ_lt_succ hk)

/-- **A run is ticks that get done**, up to its end or to one tick more that fails it. -/
theorem Runs.getsDone (h : s.Runs us r) : ∃ n, s.GetsDone n ∧ r.final.ticks = s.ticks + n ∧
    (us.length = n ∧
        (r.result = .ok r.final.ticks ∨ r.result = .error (.outOfTicks r.final.ticks)) ∨
      ∃ e, us.length = n + 1 ∧ (s.after n).tick.result = .error e ∧ r.result = .error e) := by
  induction h with
  | halted => exact ⟨0, nofun, rfl, Or.inl ⟨rfl, Or.inl rfl⟩⟩
  | spent => exact ⟨0, nofun, rfl, Or.inl ⟨rfl, Or.inr rfl⟩⟩
  | fails _ _ he => exact ⟨0, nofun, ticks_next_of_error he, Or.inr ⟨_, rfl, he, rfl⟩⟩
  | goesOn _ _ hok _ ih =>
    obtain ⟨n, hdone, hticks, hend⟩ := ih
    rw [ticks_next_of_ok hok] at hticks
    refine ⟨n + 1, .succ ⟨_, hok⟩ hdone, by omega, ?_⟩
    rw [List.length_cons, Nat.add_left_inj, Nat.add_left_inj, ← after_next]
    exact hend

/-- A run that ticks has had nothing but ticks that go on. -/
theorem Runs.goesOn_of_lt (h : s.Runs us r) (hk : k < us.length) : s.GoesOn k := by
  intro j hj
  obtain ⟨n, hdone, -, hend⟩ := h.getsDone
  have hjn : j < n := by
    rcases hend with ⟨hlen, -⟩ | ⟨-, hlen, -⟩ <;> omega
  obtain ⟨halted, hok⟩ := hdone j hjn
  obtain ⟨hrunning, -⟩ := h.running (k := j + 1) (by omega)
  rw [hok, ← halted_next_of_ok hok]
  exact congrArg Except.ok hrunning

/-- A run ticks where its ticks lead to, as long as they go on and the limit is not reached. -/
theorem Runs.getElem?_of_goesOn (h : s.Runs us r) (hh : s.halted = false) (hg : s.GoesOn n)
    (hs : (s.after n).isSpent = false) : us[n]? = some (s.after n) := by
  have hleft : ∀ m ≤ n, (s.after m).isSpent = false := fun m hm =>
    isSpent_eq_false_iff.2 fun l hl => by
      have hl' : (s.after n).limit = some l := by rw [limit_after, ← limit_after s m, hl]
      have := isSpent_eq_false_iff.1 hs l hl'
      rw [hg.ticks_after] at this
      rw [(hg.of_le hm).ticks_after]
      omega
  clear hs
  induction h generalizing n with
  | halted hhalted =>
    rw [hh] at hhalted
    cases hhalted
  | @spent s _ hspent =>
    have := hleft 0 (Nat.zero_le n)
    rw [after, hspent] at this
    cases this
  | @fails s e _ _ he =>
    cases n with
    | zero => rfl
    | succ n =>
      have := hg 0 (Nat.succ_pos n)
      rw [after, he] at this
      cases this
  | @goesOn s us r halted _ _ hok _ ih =>
    cases n with
    | zero => rfl
    | succ n =>
      have hfirst : s.tick.result = .ok false := hg 0 (Nat.succ_pos n)
      rw [List.getElem?_cons_succ, ← after_next]
      refine ih (halted_next_of_ok hfirst) hg.next fun m hm => ?_
      rw [after_next]
      exact hleft (m + 1) (Nat.succ_le_succ hm)

end Execution

end RuneGrid
