import RuneGrid.Arithmetic
import RuneGrid.Glyph
import RuneGrid.Vec

/-!
# Instructions

Every glyph is an instruction: a glyph without a meaning of its own is `nop`.
-/

namespace RuneGrid

inductive Instruction
  | digit (value : Fin 16)
  | clear
  | finish
  | output
  | push
  | turn (turn : Turn)
  | faceEast
  | faceWest
  | operate (op : Operator)
  | reverseIf
  | nop
deriving DecidableEq

namespace Instruction

/-- The instruction that a glyph stands for. -/
def ofGlyph (c : Char) : Instruction :=
  match c with
  | 'ᚹ' => clear
  | 'ᛧ' => finish
  | 'ᚭ' => output
  | 'ᛙ' => push
  | 'ᛁ' => turn .half
  | 'ᛚ' => turn .plus90
  | 'ᛐ' => turn .minus90
  | 'ᚿ' => turn .clockwise
  | 'ᚱ' => faceEast
  | 'ᚢ' => faceWest
  | 'ᚷ' => operate .sub
  | 'ᛟ' => operate .add
  | 'ᚴ' => operate .div
  | 'ᚠ' => operate .mul
  | 'ᚦ' => reverseIf
  | _ =>
    match Glyph.digit? c with
    | some d => digit d
    | none => nop

/-- The name under which a trace shows an instruction. -/
def mnemonic : Instruction → String
  | digit _ => "digit"
  | clear => "clear"
  | finish => "end"
  | output => "output"
  | push => "push"
  | turn .half => "reverse"
  | turn .plus90 => "turn+90"
  | turn .minus90 => "turn-90"
  | turn .clockwise => "rotate-right"
  | faceEast => "face-east"
  | faceWest => "face-west"
  | operate .sub => "sub"
  | operate .add => "add"
  | operate .div => "div"
  | operate .mul => "mul"
  | reverseIf => "reverse-if"
  | nop => "nop"

end Instruction

end RuneGrid
