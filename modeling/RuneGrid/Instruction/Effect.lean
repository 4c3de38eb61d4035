import RuneGrid.Event
import RuneGrid.Focus
import RuneGrid.Instruction.Basic
import RuneGrid.Pointer
import RuneGrid.Sink.Basic

/-!
# Executing an instruction

An instruction works on the pointer that executes it and on what all pointers share. A fault stops
it where it stands: what it did before the fault stays done.
-/

namespace RuneGrid

/-- What the pointers of a program share. -/
structure Shared (σ : Type) where
  stack : Stack
  sink : σ
  /-- Whether a pointer has executed `end`. -/
  halted : Bool

/-- One pointer at work: what it sees, and the events so far. -/
structure Scene (σ : Type) extends Shared σ where
  pointer : Pointer
  events : List Event

namespace Scene

variable {σ : Type}

def note (e : Event) (f : Scene σ) : Scene σ :=
  { f with events := f.events ++ [e] }

/-- The effect of one instruction, or of a part of one. -/
abbrev Action (σ : Type) :=
  EStateM Fault (Scene σ)

/-- Lets an observer know. -/
def tell (e : Pointer → Event) : Action σ Unit :=
  modify fun f => f.note (e f.pointer)

/-- Changes the pointer. -/
def onPointer (change : Pointer → Pointer) : Action σ Unit :=
  modify fun f => { f with pointer := change f.pointer }

/-- Asks the pointer for something that it may not have. -/
def ask {α : Type} (question : Pointer → Except Fault α) : Action σ α := do
  ofExcept (question (← get).pointer)

def push (v : Word) : Action σ Unit := do
  modify fun f => { f with stack := f.stack.push (some v) }
  tell (.pushed ·.id v)

/-- Takes an operand off the stack. An unset entry is a fault, but it is gone all the same. -/
def takeOperand : Action σ Word := do
  let entry ← focus (·.stack) (fun stack f => { f with stack }) Stack.pop
  tell (.popped ·.id entry)
  ofExcept (Stack.asOperand entry)

/-- Hands a glyph to the sink. -/
def emit [Sink σ] (glyph : Char) : Action σ Unit := do
  EStateM.adaptExcept .refusedOutput
    (focus (·.sink) (fun sink f => { f with sink }) (Sink.emit glyph))
  tell (.emitted ·.id glyph)

def halt : Action σ Unit :=
  modify fun f => { f with halted := true }

end Scene

open Scene in
/-- Executes an instruction. An arithmetic one looks at the register first, takes the operand off
the stack and only then computes, so a fault of the arithmetic has used up the operand. -/
def Instruction.effect {σ : Type} [Sink σ] : Instruction → Scene.Action σ Unit
  | digit d => onPointer (·.setRegister (some (Int64.ofNat d)))
  | clear => onPointer (·.setRegister none)
  | finish => halt
  | output => do emit (← ask Pointer.glyph)
  | push => do Scene.push (← ask Pointer.value)
  | turn t => onPointer (·.turn t)
  | faceEast => onPointer (·.face .east)
  | faceWest => onPointer (·.face .west)
  | operate op => do
    let v ← ask Pointer.value
    let operand ← takeOperand
    let result ← ofExcept (op.apply v operand)
    onPointer (·.setRegister (some result))
  | reverseIf => onPointer fun p => if p.isNonzero then p.turn .half else p
  | nop => pure ()

end RuneGrid
