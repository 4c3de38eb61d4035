import RuneGrid.Diagnostic.Fault
import RuneGrid.Glyph
import RuneGrid.Vec

/-!
# Instruction pointers

A pointer starts on a start glyph, which gives it its first velocity and its wrap bias. It carries
one register.
-/

namespace RuneGrid

/-- How a start glyph sends its pointer off. -/
structure Heading where
  velocity : Vec
  bias : Vec
deriving DecidableEq

/-- The start glyphs: two that keep their lane when they cross an edge, one that goes on in the next
row and one that goes on in the next column. -/
def Heading.ofGlyph? : Char → Option Heading
  | 'ᛌ' => some ⟨.east, .zero⟩
  | 'ᛍ' => some ⟨.south, .zero⟩
  | 'ᛊ' => some ⟨.east, ⟨0, 1⟩⟩
  | 'ᛋ' => some ⟨.south, ⟨1, 0⟩⟩
  | _ => none

structure Pointer where
  id : Nat
  pos : Vec
  /-- Where the pointer started. -/
  origin : Vec
  /-- The start glyph. -/
  symbol : Char
  velocity : Vec
  /-- The shift at an edge of the page. -/
  bias : Vec
  /-- `none` if it is unset. -/
  register : Option Word
deriving DecidableEq

namespace Pointer

/-- The pointer that a start glyph at `pos` sets off. -/
def spawn? (id : Nat) (pos : Vec) (symbol : Char) : Option Pointer :=
  (Heading.ofGlyph? symbol).map fun h =>
    { id, pos, origin := pos, symbol, velocity := h.velocity, bias := h.bias, register := some 0 }

/-- Moves by the velocity, off the page too. -/
def advance (p : Pointer) : Pointer :=
  { p with pos := p.pos + p.velocity }

def turn (p : Pointer) (t : Turn) : Pointer :=
  { p with velocity := t.apply p.velocity }

def face (p : Pointer) (heading : Vec) : Pointer :=
  { p with velocity := heading }

def setRegister (p : Pointer) (v : Option Word) : Pointer :=
  { p with register := v }

/-- Whether the register is set and not 0. -/
def isNonzero (p : Pointer) : Bool :=
  match p.register with
  | some v => v ≠ 0
  | none => false

/-- The register's value, which has to be set. -/
def value (p : Pointer) : Except Fault Word :=
  match p.register with
  | some v => .ok v
  | none => .error .unsetRegister

/-- The glyph that the pointer writes. -/
def glyph (p : Pointer) : Except Fault Char :=
  match p.register with
  | none => .ok Glyph.separator
  | some v =>
    match Glyph.numeral? v with
    | some c => .ok c
    | none => .error (.noGlyph v)

end Pointer

end RuneGrid
