/-!
# Numbers in text

Reading numbers that fit into 64 bits, written with digits and perhaps a plus sign.
-/

namespace RuneGrid

namespace Text

/-- Why a text is no number. -/
inductive NumberError
  | empty
  | invalidDigit
  | tooLarge
deriving DecidableEq

def NumberError.message : NumberError → String
  | empty => "cannot parse integer from empty string"
  | invalidDigit => "invalid digit found in string"
  | tooLarge => "number too large to fit in target type"

/-- The greatest number that can be read. -/
def greatest : Nat := 18446744073709551615

/-- Reads the digits behind a number. The first of them that leads above the greatest number or is
no digit is the error. -/
def readDigits (n : Nat) : List Char → Except NumberError Nat
  | [] => .ok n
  | c :: cs =>
    if c.isDigit then
      let next := 10 * n + (c.toNat - '0'.toNat)
      if next ≤ greatest then readDigits next cs else .error .tooLarge
    else .error .invalidDigit

/-- Reads a number: digits, with a plus sign in front of them or not. -/
def readNumber (s : String) : Except NumberError Nat :=
  match s.toList with
  | [] => .error .empty
  | ['+'] => .error .invalidDigit
  | '+' :: digits => readDigits 0 digits
  | digits => readDigits 0 digits

end Text

end RuneGrid
