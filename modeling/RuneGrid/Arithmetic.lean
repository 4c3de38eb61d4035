import RuneGrid.Diagnostic.Fault

/-!
# Arithmetic of the language

Addition and subtraction work on register values as they are. Multiplication and division count from
one: the value `v` stands for `v + 1`, so 0 is the neutral factor and -1 the divisor that does not
exist. A result that no word holds is an overflow, also at every step on the way to it.
-/

namespace RuneGrid

/-- Turns a missing result into an overflow. -/
def orOverflow (v : Option Word) : Except Fault Word :=
  match v with
  | some w => .ok w
  | none => .error .overflow

/-- The quotient `⌊(v + 1) / (d + 1)⌋ - 1`. -/
def shiftedQuotient (v d : Word) : Except Fault Word := do
  let dividend ← orOverflow (v.add? 1)
  let divisor ← orOverflow (d.add? 1)
  if divisor = 0 then throw .zeroDivisor
  let q ← orOverflow (dividend.floorDiv? divisor)
  orOverflow (q.sub? 1)

/-- The product `(v + 1) * (f + 1) - 1`. -/
def shiftedProduct (v f : Word) : Except Fault Word := do
  let a ← orOverflow (v.add? 1)
  let b ← orOverflow (f.add? 1)
  let p ← orOverflow (a.mul? b)
  orOverflow (p.sub? 1)

/-- The operations that take one operand from the register and one from the stack. -/
inductive Operator
  | sub
  | add
  | div
  | mul
deriving DecidableEq

/-- Applies an operator to the register's value and the popped one. -/
def Operator.apply : Operator → Word → Word → Except Fault Word
  | .sub, v, w => orOverflow (v.sub? w)
  | .add, v, w => orOverflow (v.add? w)
  | .div, v, w => shiftedQuotient v w
  | .mul, v, w => shiftedProduct v w

end RuneGrid
