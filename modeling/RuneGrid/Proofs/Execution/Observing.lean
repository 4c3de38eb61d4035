import RuneGrid.Proofs.Execution.Done

/-!
# What an observer sees of a run

An observer is told about the events of each tick and, if the program halts, about that; nothing of
what it does with them comes back to the run (`runWith_eq`).  `traced` collects them
(`traced_eq`).  One who is there for the load as well is told about that first (`tracedFrom_eq`).
-/

namespace RuneGrid

variable {σ : Type} [Sink σ]

/-- What an observer is told at the end of a run. -/
def Run.closing (r : Run σ) : List Event :=
  match r.result with
  | .ok ticks => [.halted ticks]
  | .error _ => []

namespace Execution

variable {s : Execution σ} {us : List (Execution σ)} {r : Run σ} {n : Nat}

/-- What an observer is told of the run from `s` that ticks in the states `us` and ends as `r`. -/
def seen (s : Execution σ) (us : List (Execution σ)) (r : Run σ) : List Event :=
  .started s.pointers.length :: us.flatMap (·.tick.events) ++ r.closing

section

variable {m : Type → Type} [Monad m] [LawfulMonad m]

theorem runFor_eq (observe : Event → m Unit)
    (hr : Id.run (runFor (fun _ => pure ()) n s) = some r) (h : s.Runs us r) :
    runFor observe n s = do
      (us.flatMap (·.tick.events) ++ r.closing).forM observe
      return some r := by
  induction h generalizing n with
  | @halted s hh =>
    cases n with
    | zero => cases hr
    | succ n =>
      rw [runFor, if_pos hh]
      simp [Run.closing]
  | @spent s hh hs =>
    cases n with
    | zero => cases hr
    | succ n =>
      rw [runFor, if_neg (by simp [hh]), if_pos hs]
      simp [Run.closing]
  | @fails s e hh hs he =>
    cases n with
    | zero => cases hr
    | succ n =>
      rw [runFor, if_neg (by simp [hh]), if_neg (by simp [hs])]
      simp [Run.closing, he]
  | @goesOn s us r halted hh hs hok _ ih =>
    cases n with
    | zero => cases hr
    | succ n =>
      rw [runFor_of_left hh hs, hok] at hr
      rw [runFor, if_neg (by simp [hh]), if_neg (by simp [hs])]
      dsimp only
      rw [hok]
      dsimp only
      rw [ih hr]
      simp [List.forM_append]

/-- **An observed run** is the run, and the observer is told what there is to see of it. -/
theorem runWith_eq (observe : Event → m Unit) (hr : s.run? = some r) (h : s.Runs us r) :
    s.runWith observe = do
      (s.seen us r).forM observe
      return some r := by
  rw [run?_eq] at hr
  rw [runWith, runFor_eq observe hr h]
  simp [seen]

end

theorem run_forM_push (events : List Event) (log : Array Event) :
    (forM events fun e => modify (·.push e) : StateM (Array Event) PUnit).run log =
      ((), log ++ events.toArray) := by
  induction events generalizing log with
  | nil => rfl
  | cons e events ih =>
    rw [List.forM_cons, StateT.run_bind]
    exact (ih (log.push e)).trans (by simp)

/-- An observer that collects what it is told collects everything that there is to see. -/
theorem run_runWith_push (hr : s.run? = some r) (h : s.Runs us r) (log : Array Event) :
    (s.runWith fun e => modify (·.push e) : StateM (Array Event) (Option (Run σ))).run log =
      (some r, log ++ (s.seen us r).toArray) := by
  rw [runWith_eq _ hr h, List.forM_eq_forM, StateT.run_bind, run_forM_push]
  rfl

theorem traced_eq (hr : s.run? = some r) (h : s.Runs us r) :
    s.traced = (some r, (s.seen us r).toArray) := by
  rw [traced, run_runWith_push hr h, Array.empty_append]
  rfl

/-- **What is collected of a load and a run** is the event of the load and what is collected of the
run. -/
theorem tracedFrom_eq {source : String} {program : Program} {sink : σ} {limit : Option Nat}
    (hload : Program.load source = .ok program)
    (hr : (ofProgram program sink limit).run? = some r) :
    tracedFrom source sink limit =
      (.ok (some r), #[program.loadedEvent] ++ (ofProgram program sink limit).traced.2) := by
  obtain ⟨us, hus⟩ := exists_runs hr
  have hrun := run_runWith_push hr hus #[program.loadedEvent]
  rw [traced_eq hr hus, tracedFrom, loadAndRun, Program.loadWith, hload]
  simp only [bind_assoc, pure_bind, StateT.run_bind, StateT.run_modify]
  change Id.run (StateT.run _ #[program.loadedEvent] >>= _) = _
  rw [hrun]
  rfl

end Execution

end RuneGrid
