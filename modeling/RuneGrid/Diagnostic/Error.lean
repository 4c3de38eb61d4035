import RuneGrid.Diagnostic.Fault
import RuneGrid.Text.Quoted
import RuneGrid.Vec

/-!
# Load and run errors

The errors that end a load or a run, each with the place that it blames, and the line of text that
describes it.
-/

namespace RuneGrid

/-- Why a source is not a grid. -/
inductive LoadError
  | emptySource
  /-- A cluster that cannot be read: its line and its place in it, both from 1, and the character to
  blame. The line 0 stands for a line of no known place. -/
  | unknownMark (line column : Nat) (found : Char)
deriving DecidableEq

namespace LoadError

def code : LoadError → ErrorCode
  | emptySource => .emptySource
  | unknownMark .. => .unknownMark

/-- The line of the error, 0 if it has none. -/
def line : LoadError → Nat
  | emptySource => 0
  | unknownMark line _ _ => line

/-- The column of the error, 0 if it has none. -/
def column : LoadError → Nat
  | emptySource => 0
  | unknownMark _ column _ => column

def found? : LoadError → Option Char
  | emptySource => none
  | unknownMark _ _ found => some found

/-- A code point in upper case with at least four digits. -/
def codePoint (c : Char) : String :=
  String.ofList (((Nat.toDigits 16 c.toNat).map Char.toUpper).leftpad 4 '0')

def description (e : LoadError) : String :=
  let found := match e.found? with
    | some c => " U+" ++ codePoint c
    | none => ""
  let place := if 0 < e.line then s!" at line {e.line} column {e.column}" else ""
  s!"{e.code.id} {e.code.message}{found}{place}"

end LoadError

/-- Where a run error happened: the pointer, where it stood, and the glyph under it if there was
one. -/
structure Site where
  pointer : Nat
  pos : Vec
  glyph : Option Char
deriving DecidableEq

/-- Why a run ended without `end`. Ticks are counted from 1. -/
inductive RunError
  | faulted (fault : Fault) (site : Site) (tick : Nat)
  | offGrid (site : Site) (tick : Nat)
  | outOfTicks (ticks : Nat)
deriving DecidableEq

namespace RunError

def code : RunError → ErrorCode
  | faulted fault _ _ => fault.code
  | offGrid .. => .offGrid
  | outOfTicks _ => .outOfTicks

def message (e : RunError) : String :=
  match e with
  | faulted fault _ _ => fault.message
  | offGrid .. => e.code.message
  | outOfTicks ticks => s!"{e.code.message} ({ticks} ticks)"

def site? : RunError → Option Site
  | faulted _ site _ | offGrid site _ => some site
  | outOfTicks _ => none

/-- The tick in which the error happened; for an exhausted budget, the last one that was run. -/
def tick : RunError → Nat
  | faulted _ _ tick | offGrid _ tick => tick
  | outOfTicks ticks => ticks

end RunError

def Site.description (s : Site) : String :=
  let glyph := match s.glyph with
    | some c => " on " ++ Text.quotedChar c
    | none => ""
  s!": pointer {s.pointer} at ({s.pos.x}, {s.pos.y}){glyph}"

def RunError.description (e : RunError) : String :=
  let site := match e.site? with
    | some s => s.description
    | none => ""
  s!"{e.code.id} {e.message}{site}, tick {e.tick}"

end RuneGrid
