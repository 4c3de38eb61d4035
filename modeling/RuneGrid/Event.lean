import RuneGrid.Stack
import RuneGrid.Vec

/-!
# Events

What an observer of a load and a run sees, in the order in which it happens.
-/

namespace RuneGrid

inductive Event
  /-- A source has been read. -/
  | loaded (rows pointers : Nat)
  | started (pointers : Nat)
  /-- A pointer is about to execute the cell under it. -/
  | command (pointer : Nat) (pos : Vec) (glyph : Char)
  | pushed (pointer : Nat) (value : Word)
  /-- A pointer has taken an entry off the stack, whether or not it can use it. -/
  | popped (pointer : Nat) (entry : Option Word)
  /-- The sink has taken a glyph. -/
  | emitted (pointer : Nat) (glyph : Char)
  /-- A tick is complete: its number, the registers of all pointers and the top of the stack. -/
  | ticked (tick : Nat) (registers : List (Option Word)) (top : Option (Option Word))
  | halted (ticks : Nat)
deriving DecidableEq

end RuneGrid
