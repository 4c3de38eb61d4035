/-!
# Diagnostic codes

Every error of the language has a stable code, a message and the phase in which it arises.
-/

namespace RuneGrid

/-- The part of the work that an error belongs to. `internal` errors are not the program's fault. -/
inductive Phase
  | load
  | run
  | internal
deriving DecidableEq

def Phase.name : Phase → String
  | .load => "Load"
  | .run => "Run"
  | .internal => "Internal"

inductive ErrorCode
  | emptySource
  | unknownMark
  | emptyStack
  | unsetRegister
  | noGlyph
  | zeroDivisor
  | overflow
  | refusedOutput
  | outOfTicks
  | offGrid
deriving DecidableEq

namespace ErrorCode

/-- What the identifiers of all codes start with. -/
def idStart : String := "RNR"

/-- The three groups of numbers are load errors (from 1), run errors (from 101) and internal errors
(from 901). -/
def id : ErrorCode → String
  | emptySource => idStart ++ "0001"
  | unknownMark => idStart ++ "0002"
  | emptyStack => idStart ++ "0101"
  | unsetRegister => idStart ++ "0102"
  | noGlyph => idStart ++ "0103"
  | zeroDivisor => idStart ++ "0104"
  | overflow => idStart ++ "0105"
  | refusedOutput => idStart ++ "0106"
  | outOfTicks => idStart ++ "0107"
  | offGrid => idStart ++ "0901"

def message : ErrorCode → String
  | emptySource => "source contains no rows"
  | unknownMark => "unknown pentimal diacritic"
  | emptyStack => "pop from empty stack"
  | unsetRegister => "register is unset"
  | noGlyph => "register value has no output glyph"
  | zeroDivisor => "division by zero"
  | overflow => "arithmetic overflow"
  | refusedOutput => "failed to write program output"
  | outOfTicks => "tick budget exhausted before halt"
  | offGrid => "pointer left the grid"

def phase : ErrorCode → Phase
  | emptySource | unknownMark => .load
  | offGrid => .internal
  | _ => .run

end ErrorCode

end RuneGrid
