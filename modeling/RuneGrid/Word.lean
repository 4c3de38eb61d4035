/-!
# Register words

Registers and stack entries hold signed words of 64 bits. Every operation below is the exact one on
the integers followed by a check of the range, so `none` always means that no word holds the result.
Main statements: `ofInt?_eq_some_iff` (a word is found for exactly its own value) and
`ofInt?_eq_none_iff` (when there is none).
-/

namespace RuneGrid

/-- A register value. -/
abbrev Word := Int64

namespace Word

/-- The word of value `n`, if `n` is in the range of the words. -/
def ofInt? (n : Int) : Option Word :=
  if -9223372036854775808 ≤ n ∧ n ≤ 9223372036854775807 then some (Int64.ofInt n) else none

theorem ofInt?_eq_some_iff {n : Int} {w : Word} : ofInt? n = some w ↔ w.toInt = n := by
  have hlo := Int64.le_toInt w
  have hhi := Int64.toInt_lt w
  unfold ofInt?
  constructor
  · intro h
    split at h
    · cases h
      exact Int64.toInt_ofInt_of_le (by omega) (by omega)
    · cases h
  · rintro rfl
    rw [if_pos (by omega), Int64.ofInt_toInt]

theorem ofInt?_eq_none_iff {n : Int} :
    ofInt? n = none ↔ n < -9223372036854775808 ∨ 9223372036854775807 < n := by
  unfold ofInt?
  split <;> simp <;> omega

def add? (a b : Word) : Option Word :=
  ofInt? (a.toInt + b.toInt)

def sub? (a b : Word) : Option Word :=
  ofInt? (a.toInt - b.toInt)

def mul? (a b : Word) : Option Word :=
  ofInt? (a.toInt * b.toInt)

/-- The quotient with its fraction cut off. There is none for the divisor 0. -/
def quot? (a b : Word) : Option Word :=
  if b.toInt = 0 then none else ofInt? (a.toInt.tdiv b.toInt)

/-- The quotient rounded down: the cut one, less 1 if the division is not exact and the operands
have different signs. -/
def floorDiv? (a b : Word) : Option Word := do
  let q ← a.quot? b
  if a.toInt.tmod b.toInt ≠ 0 ∧ ¬(a.toInt < 0 ↔ b.toInt < 0) then q.sub? 1 else some q

end Word

end RuneGrid
