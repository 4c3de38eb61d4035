import RuneGrid.Word

/-!
# Glyph tables

The sixteen output glyphs of the language, the separator that stands for an unset register, and the
hexadecimal digits that set one.
-/

namespace RuneGrid

namespace Glyph

/-- The output glyphs, each at the index of the register value that it stands for. -/
def alphabet : List Char :=
  ['ᚠ', 'ᚢ', 'ᚦ', 'ᚬ', 'ᚱ', 'ᚴ', 'ᚼ', 'ᚾ', 'ᛁ', 'ᛅ', 'ᛋ', 'ᛏ', 'ᛒ', 'ᛘ', 'ᛚ', 'ᛦ']

/-- What an unset register is written as. -/
def separator : Char := '᛬'

/-- The output glyph of a register value, for the values below 16. -/
def numeral? (v : Word) : Option Char :=
  v.toInt.toNat?.bind (alphabet[·]?)

/-- How a trace shows a register: `?` stands for a value that has no glyph. -/
def ofRegister : Option Word → Char
  | none => separator
  | some v => (numeral? v).getD '?'

/-- The hexadecimal digit of a value, in lower case. -/
def ofDigit (d : Fin 16) : Char :=
  d.val.digitChar

/-- The value of a hexadecimal digit. Only lower case letters are digits. -/
def digit? : Char → Option (Fin 16)
  | '0' => some 0
  | '1' => some 1
  | '2' => some 2
  | '3' => some 3
  | '4' => some 4
  | '5' => some 5
  | '6' => some 6
  | '7' => some 7
  | '8' => some 8
  | '9' => some 9
  | 'a' => some 10
  | 'b' => some 11
  | 'c' => some 12
  | 'd' => some 13
  | 'e' => some 14
  | 'f' => some 15
  | _ => none

end Glyph

end RuneGrid
