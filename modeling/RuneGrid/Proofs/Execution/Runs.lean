import Mathlib.Tactic.Common
import RuneGrid.Execution.Run

/-!
# The rules of a run

`Runs s us r` says that the run from `s` ticks in the states `us`, one after the other, and
ends as `r`.  There is a rule for each way to end and one for a tick after which the run goes
on.  Main statements:

* `exists_runs`: the rules say what `run?` finds.
* `runFor_mono`: a run that has ended ends in the same way if it is allowed more ticks.
-/

namespace RuneGrid

variable {σ : Type}

namespace Execution

section

variable {s : Execution σ} {n : Nat}

theorem allowance_of_limit (hl : s.limit = some n) : s.allowance = n - s.ticks + 1 := by
  rw [allowance, hl]

/-- Every run is allowed to look where it starts. -/
theorem allowance_pos (s : Execution σ) : 0 < s.allowance := by
  unfold allowance
  split <;> omega

theorem isSpent_eq_false_iff : s.isSpent = false ↔ ∀ n, s.limit = some n → s.ticks < n := by
  unfold isSpent
  split <;> simp_all

end

variable [Sink σ]

/-- The run from `s` ticks in the states `us` and ends as `r`. -/
inductive Runs : Execution σ → List (Execution σ) → Run σ → Prop
  | halted {s : Execution σ} (halted : s.halted = true) : Runs s [] ⟨s, .ok s.ticks⟩
  | spent {s : Execution σ} (running : s.halted = false) (spent : s.isSpent = true) :
    Runs s [] ⟨s, .error (.outOfTicks s.ticks)⟩
  | fails {s : Execution σ} {e : RunError} (running : s.halted = false) (left : s.isSpent = false)
    (fails : s.tick.result = .error e) : Runs s [s] ⟨s.tick.next, .error e⟩
  | goesOn {s : Execution σ} {us : List (Execution σ)} {r : Run σ} {halted : Bool}
    (running : s.halted = false) (left : s.isSpent = false) (done : s.tick.result = .ok halted)
    (rest : Runs s.tick.next us r) : Runs s (s :: us) r

variable {s : Execution σ} {us : List (Execution σ)} {r : Run σ} {m n : Nat}

/-! ### The first turn of a run -/

theorem runFor_of_halted (hh : s.halted = true) (n : Nat) :
    Id.run (runFor (fun _ => pure ()) (n + 1) s) = some ⟨s, .ok s.ticks⟩ := by
  rw [runFor, if_pos hh]
  rfl

theorem runFor_of_spent (hh : s.halted = false) (hs : s.isSpent = true) (n : Nat) :
    Id.run (runFor (fun _ => pure ()) (n + 1) s) = some ⟨s, .error (.outOfTicks s.ticks)⟩ := by
  rw [runFor, if_neg (by simp [hh]), if_pos hs]
  rfl

theorem runFor_of_left (hh : s.halted = false) (hs : s.isSpent = false) (n : Nat) :
    Id.run (runFor (fun _ => pure ()) (n + 1) s) = match s.tick.result with
      | .error e => some ⟨s.tick.next, .error e⟩
      | .ok _ => Id.run (runFor (fun _ => pure ()) n s.tick.next) := by
  rw [runFor, if_neg (by simp [hh]), if_neg (by simp [hs])]
  cases h : s.tick.result <;> simp [h]

theorem run?_eq (s : Execution σ) : s.run? = Id.run (runFor (fun _ => pure ()) s.allowance s) := by
  simp [run?, runWith]

/-! ### What a run finds -/

/-- A run that has ended ends in the same way if it is allowed more ticks. -/
theorem runFor_mono (hmn : m ≤ n) (h : Id.run (runFor (fun _ => pure ()) m s) = some r) :
    Id.run (runFor (fun _ => pure ()) n s) = some r := by
  induction m generalizing n s with
  | zero => cases h
  | succ m ih =>
    obtain ⟨n, rfl⟩ := Nat.exists_eq_succ_of_ne_zero (by omega : n ≠ 0)
    cases hh : s.halted with
    | true => rwa [runFor_of_halted hh] at h ⊢
    | false =>
      cases hs : s.isSpent with
      | true => rwa [runFor_of_spent hh hs] at h ⊢
      | false =>
        rw [runFor_of_left hh hs] at h ⊢
        split at h
        · exact h
        · exact ih (by omega) h

theorem exists_runs_of_runFor (h : Id.run (runFor (fun _ => pure ()) n s) = some r) :
    ∃ us, s.Runs us r := by
  induction n generalizing s with
  | zero => cases h
  | succ n ih =>
    cases hh : s.halted with
    | true =>
      rw [runFor_of_halted hh] at h
      cases h
      exact ⟨[], .halted hh⟩
    | false =>
      cases hs : s.isSpent with
      | true =>
        rw [runFor_of_spent hh hs] at h
        cases h
        exact ⟨[], .spent hh hs⟩
      | false =>
        rw [runFor_of_left hh hs] at h
        split at h
        · next e he =>
          cases h
          exact ⟨[s], .fails hh hs he⟩
        · next halted hok =>
          obtain ⟨us, hus⟩ := ih h
          exact ⟨s :: us, .goesOn hh hs hok hus⟩

/-- **The rules say what `run?` finds.** -/
theorem exists_runs (h : s.run? = some r) : ∃ us, s.Runs us r := by
  rw [run?_eq] at h
  exact exists_runs_of_runFor h

end Execution

end RuneGrid
