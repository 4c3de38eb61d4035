import RuneGrid.Proofs.Execution.Pass
import RuneGrid.Proofs.Execution.Runs

/-!
# Sessions

Whoever holds an execution may tick it and run it, in any order and as often as they like; errors
and the halt do not end that.  `Session s es t` says that some calls lead from `s` to `t`, and that
`es` are the errors that they answered.

A run is a number of ticks, of which only the last one can fail, and perhaps the refusal of a
further one.  So what a tick keeps, a whole session keeps: `Session.induction` with the errors,
`Session.invariant` without.
-/

namespace RuneGrid

variable {σ : Type}

/-- The error of a result, if it is one. -/
def errorsOf {α : Type} : Except RunError α → List RunError
  | .ok _ => []
  | .error e => [e]

theorem mem_errorsOf {α : Type} {result : Except RunError α} {e : RunError} :
    e ∈ errorsOf result ↔ result = .error e := by
  cases result <;> simp [errorsOf, eq_comm]

namespace Execution

variable [Sink σ] {s t : Execution σ} {es : List RunError} {r : Run σ}

/-- Some calls of `tick` and `run?` lead from `s` to `t` and answer the errors `es`. -/
inductive Session (s : Execution σ) : List RunError → Execution σ → Prop
  | start : Session s [] s
  | tick {es : List RunError} {t : Execution σ} (prior : Session s es t) :
    Session s (es ++ errorsOf t.tick.result) t.tick.next
  | run {es : List RunError} {t : Execution σ} {r : Run σ} (prior : Session s es t)
    (ends : t.run? = some r) : Session s (es ++ errorsOf r.result) r.final

section

variable {motive : List RunError → Execution σ → Prop}

theorem Runs.motive_final
    (tick : ∀ es t, motive es t → motive (es ++ errorsOf t.tick.result) t.tick.next)
    (spent : ∀ es t n, motive es t → motive (es ++ [.outOfTicks n]) t) {us : List (Execution σ)}
    (h : s.Runs us r) (hs : motive es s) : motive (es ++ errorsOf r.result) r.final := by
  induction h with
  | halted =>
    rw [errorsOf, List.append_nil]
    exact hs
  | spent => exact spent _ _ _ hs
  | fails _ _ he =>
    have ht := tick _ _ hs
    rw [he] at ht
    exact ht
  | goesOn _ _ hok _ ih =>
    have ht := tick _ _ hs
    rw [hok, errorsOf, List.append_nil] at ht
    exact ih ht

/-- **What every tick keeps, a session keeps**, if it does not depend on refused runs. -/
theorem Session.induction (start : motive [] s)
    (tick : ∀ es t, motive es t → motive (es ++ errorsOf t.tick.result) t.tick.next)
    (spent : ∀ es t n, motive es t → motive (es ++ [.outOfTicks n]) t)
    (h : s.Session es t) : motive es t := by
  induction h with
  | start => exact start
  | tick _ ih => exact tick _ _ ih
  | run _ hr ih =>
    obtain ⟨us, hus⟩ := exists_runs hr
    exact hus.motive_final tick spent ih

end

/-- What every tick on the grid keeps of a state, a session keeps. -/
theorem Session.invariant {I : Execution σ → Prop} (start : I s)
    (tick : ∀ t, t.grid = s.grid → I t → I t.tick.next) (h : s.Session es t) : I t := by
  suffices hall : t.grid = s.grid ∧ I t from hall.2
  refine h.induction (motive := fun _ t => t.grid = s.grid ∧ I t) ⟨rfl, start⟩ (fun es t ih => ?_)
    (fun es t n ih => ih)
  exact ⟨grid_next.trans ih.1, tick t ih.1 ih.2⟩

end Execution

end RuneGrid
