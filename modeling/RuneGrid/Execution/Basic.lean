import RuneGrid.Grid.Wrap
import RuneGrid.Instruction.Effect
import RuneGrid.Program

/-!
# Ticks

In each tick every pointer executes the cell under it and moves on, one after the other in the order
of their numbers. An `end` cell lets the rest of its tick happen. An error stops the tick on the
spot: the pointers before the one at fault have moved already, those after it have not, and the tick
does not count. Main statements: `ticks_next_of_ok` and `ticks_next_of_error`.
-/

namespace RuneGrid

variable {σ : Type}

/-- What one pointer does in a tick: it executes its cell, then it moves on. -/
def Scene.step [Sink σ] (g : Grid) (tick : Nat) : EStateM RunError (Scene σ) Unit := do
  let p := (← get).pointer
  match g.cell p.pos with
  | none => throw (.offGrid ⟨p.id, p.pos, none⟩ tick)
  | some glyph =>
    modify (·.note (.command p.id p.pos glyph))
    EStateM.adaptExcept (.faulted · ⟨p.id, p.pos, some glyph⟩ tick)
      (Instruction.ofGlyph glyph).effect
    modify fun f => { f with pointer := f.pointer.advance }
    let moved := (← get).pointer
    match g.wrap moved.bias moved.pos with
    | none => throw (.offGrid ⟨moved.id, moved.pos, none⟩ tick)
    | some pos => modify fun f => { f with pointer := { f.pointer with pos } }

/-- How far a tick has come: all pointers, in order, and the error that stopped it. -/
structure Pass (σ : Type) where
  pointers : List Pointer
  shared : Shared σ
  events : List Event
  error? : Option RunError

/-- Lets each pointer of the list take its step. -/
def Pass.run [Sink σ] (g : Grid) (tick : Nat) : List Pointer → Shared σ → Pass σ
  | [], shared => ⟨[], shared, [], none⟩
  | p :: ps, shared =>
    match Scene.step g tick ⟨shared, p, []⟩ with
    | .error e f => ⟨f.pointer :: ps, f.toShared, f.events, some e⟩
    | .ok () f =>
      let rest := Pass.run g tick ps f.toShared
      { rest with pointers := f.pointer :: rest.pointers, events := f.events ++ rest.events }

/-- A program in the middle of its run. -/
structure Execution (σ : Type) extends Shared σ where
  grid : Grid
  pointers : List Pointer
  /-- The number of ticks after which a run gives up. -/
  limit : Option Nat
  /-- The number of completed ticks. -/
  ticks : Nat

/-- The outcome of a tick: where it leaves the program, whether that has halted, and the events on
the way. -/
structure Tick (σ : Type) where
  next : Execution σ
  result : Except RunError Bool
  events : List Event

namespace Execution

/-- A program before its first tick. -/
def ofProgram (program : Program) (sink : σ) (limit : Option Nat) : Execution σ where
  stack := .initial
  sink := sink
  halted := false
  grid := program.grid
  pointers := program.pointers
  limit := limit
  ticks := 0

/-- Lets every pointer take one step. -/
def tick [Sink σ] (s : Execution σ) : Tick σ :=
  let pass := Pass.run s.grid (s.ticks + 1) s.pointers s.toShared
  let next := { s with toShared := pass.shared, pointers := pass.pointers }
  match pass.error? with
  | some e => ⟨next, .error e, pass.events⟩
  | none =>
    let done := { next with ticks := s.ticks + 1 }
    let summary := .ticked done.ticks (done.pointers.map (·.register)) done.stack.top?
    ⟨done, .ok done.halted, pass.events ++ [summary]⟩

def transcript [Sink σ] (s : Execution σ) : String :=
  Sink.transcript s.sink

section

variable [Sink σ] {s : Execution σ}

@[simp] theorem limit_next : s.tick.next.limit = s.limit := by
  unfold tick
  dsimp only
  split <;> rfl

@[simp] theorem grid_next : s.tick.next.grid = s.grid := by
  unfold tick
  dsimp only
  split <;> rfl

theorem ticks_next_of_ok {halted : Bool} (h : s.tick.result = .ok halted) :
    s.tick.next.ticks = s.ticks + 1 := by
  unfold tick at h ⊢
  dsimp only at h ⊢
  split at h
  · cases h
  · rfl

theorem ticks_next_of_error {e : RunError} (h : s.tick.result = .error e) :
    s.tick.next.ticks = s.ticks := by
  unfold tick at h ⊢
  dsimp only at h ⊢
  split at h
  · rfl
  · cases h

end

end Execution

end RuneGrid
