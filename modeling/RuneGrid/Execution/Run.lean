import RuneGrid.Execution.Basic

/-!
# Runs

A run ticks until the program has halted, an error stops it or its limit is reached. It tells an
observer about every event when it happens. Main statement: `isSome_run?_of_limit`, a run with a
limit ends.
-/

namespace RuneGrid

variable {σ : Type}

/-- A run that has ended: the program as it stands then, and the number of ticks after which it
halted or the error that stopped it. -/
structure Run (σ : Type) where
  final : Execution σ
  result : Except RunError Nat

namespace Execution

/-- Whether the limit is reached. -/
def isSpent (s : Execution σ) : Bool :=
  match s.limit with
  | some n => n ≤ s.ticks
  | none => false

/-- Runs for fewer than `n` ticks; `none` if there is no end so far. A program that has halted is
at its end even if its limit is reached as well. -/
@[specialize]
def runFor [Sink σ] {m : Type → Type} [Monad m] (observe : Event → m Unit) :
    Nat → Execution σ → m (Option (Run σ))
  | 0, _ => return none
  | n + 1, s => do
    if s.halted then
      observe (.halted s.ticks)
      return some ⟨s, .ok s.ticks⟩
    else if s.isSpent then
      return some ⟨s, .error (.outOfTicks s.ticks)⟩
    else
      let t := s.tick
      t.events.forM observe
      match t.result with
      | .error e => return some ⟨t.next, .error e⟩
      | .ok _ => runFor observe n t.next

/-- The ticks that a run can take and one more: up to the limit, or up to the greatest number that
the tick counter holds. -/
def allowance (s : Execution σ) : Nat :=
  match s.limit with
  | some n => n - s.ticks + 1
  | none => 18446744073709551616

/-- Runs to the end and tells `observe` about every event. There is no result only if there is no
limit and the program outruns the tick counter. -/
@[specialize]
def runWith [Sink σ] {m : Type → Type} [Monad m] (observe : Event → m Unit) (s : Execution σ) :
    m (Option (Run σ)) := do
  observe (.started s.pointers.length)
  runFor observe s.allowance s

/-- Runs to the end unobserved. -/
def run? [Sink σ] (s : Execution σ) : Option (Run σ) :=
  Id.run (s.runWith fun _ => pure ())

/-- Runs to the end; the second component is all events. -/
def traced [Sink σ] (s : Execution σ) : Option (Run σ) × Array Event :=
  Id.run ((s.runWith fun e => modify (·.push e) : StateM (Array Event) (Option (Run σ))).run #[])

/-- Loads a source, runs the program from its start to the end, and tells `observe` about every
event. -/
@[specialize]
def loadAndRun [Sink σ] {m : Type → Type} [Monad m] (observe : Event → m Unit) (source : String)
    (sink : σ) (limit : Option Nat) : m (Except LoadError (Option (Run σ))) := do
  match ← Program.loadWith observe source with
  | .error e => return .error e
  | .ok program => return .ok (← (ofProgram program sink limit).runWith observe)

/-- Loads a source and runs the program to the end; the second component is all events. -/
def tracedFrom [Sink σ] (source : String) (sink : σ) (limit : Option Nat) :
    Except LoadError (Option (Run σ)) × Array Event :=
  Id.run ((loadAndRun (fun e => modify (·.push e)) source sink limit :
    StateM (Array Event) (Except LoadError (Option (Run σ)))).run #[])

theorem isSome_runFor_of_limit [Sink σ] {n limit : Nat} {s : Execution σ}
    (hl : s.limit = some limit) (hn : limit - s.ticks < n) :
    (Id.run (runFor (fun _ => pure ()) n s)).isSome := by
  induction n generalizing s with
  | zero => omega
  | succ n ih =>
    unfold runFor
    split
    · rfl
    split
    · rfl
    next hs =>
      have hlt : s.ticks < limit := by simpa [isSpent, hl] using hs
      cases hr : s.tick.result with
      | error e => simp [hr]
      | ok halted =>
        have ht := ticks_next_of_ok hr
        simpa [hr] using ih (s := s.tick.next) (by simpa using hl) (by omega)

/-- A run with a limit ends. -/
theorem isSome_run?_of_limit [Sink σ] {limit : Nat} {s : Execution σ} (h : s.limit = some limit) :
    s.run?.isSome := by
  simpa [run?, runWith, allowance, h] using
    isSome_runFor_of_limit (n := limit - s.ticks + 1) h (by omega)

end Execution

end RuneGrid
