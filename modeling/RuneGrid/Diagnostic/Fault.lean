import RuneGrid.Diagnostic.Code
import RuneGrid.Word

/-!
# Faults

What can go wrong while one instruction executes. A fault does not know where it happened; a
`RunError` pins it to a pointer, a cell and a tick.
-/

namespace RuneGrid

inductive WriteError.Kind
  | brokenPipe
  | writeZero
  | other
deriving DecidableEq

/-- Why a writer refused bytes or a flush. -/
structure WriteError where
  kind : WriteError.Kind
  message : String
deriving DecidableEq

inductive Fault
  | emptyStack
  | unsetRegister
  | noGlyph (value : Word)
  | zeroDivisor
  | overflow
  | refusedOutput (cause : WriteError)
deriving DecidableEq

namespace Fault

def code : Fault → ErrorCode
  | emptyStack => .emptyStack
  | unsetRegister => .unsetRegister
  | noGlyph _ => .noGlyph
  | zeroDivisor => .zeroDivisor
  | overflow => .overflow
  | refusedOutput _ => .refusedOutput

/-- The message of the code, followed by the value or the cause where the fault has one. -/
def message (f : Fault) : String :=
  match f with
  | noGlyph v => s!"{f.code.message} ({v.toInt})"
  | refusedOutput cause => s!"{f.code.message}: {cause.message}"
  | _ => f.code.message

end Fault

end RuneGrid
