import Mathlib.Data.List.Basic
import RuneGrid.Pointer

/-!
# Directions and biases

A pointer only ever moves in one of four directions, because its start glyph sends it off in one of
them and every turn keeps to them (`IsCardinal.turn`).  Of the three biases that start glyphs give,
one shifts vertically and two do not (`Heading.ofGlyph?_cases`), and none shifts in both directions
(`IsBias.flat`).
-/

namespace RuneGrid

/-- Whether a velocity is one of the four directions. -/
def Vec.IsCardinal (v : Vec) : Prop :=
  v = .east ∨ v = .west ∨ v = .north ∨ v = .south

namespace Vec.IsCardinal

variable {v : Vec}

theorem east : Vec.east.IsCardinal := Or.inl rfl

theorem west : Vec.west.IsCardinal := Or.inr (Or.inl rfl)

theorem turn (h : v.IsCardinal) (t : Turn) : (t.apply v).IsCardinal := by
  rcases h with rfl | rfl | rfl | rfl <;> cases t <;> unfold IsCardinal <;> decide

/-- A direction is horizontal or vertical. -/
theorem horizontal_or_vertical (h : v.IsCardinal) :
    v.y = 0 ∧ (v.x = 1 ∨ v.x = -1) ∨ v.x = 0 ∧ (v.y = 1 ∨ v.y = -1) := by
  rcases h with rfl | rfl | rfl | rfl <;> decide

theorem neg (h : v.IsCardinal) : (-v).IsCardinal :=
  h.turn .half

end Vec.IsCardinal

namespace Vec

theorem sub_eq_add_neg (p v : Vec) : p - v = p + -v := rfl

theorem sub_neg_eq_add (p v : Vec) : p - -v = p + v := by
  ext
  · exact Int.sub_neg _ _
  · exact Int.sub_neg _ _

theorem add_sub_cancel (p v : Vec) : p + v - v = p := by
  ext
  · exact Int.add_sub_cancel _ _
  · exact Int.add_sub_cancel _ _

end Vec

/-! ### Biases -/

/-- What the start glyphs give: the row-sheared one shifts down, the three others do not shift
vertically. -/
theorem Heading.ofGlyph?_cases {c : Char} {h : Heading} (hc : Heading.ofGlyph? c = some h) :
    h.velocity.IsCardinal ∧
      (c = 'ᛊ' ∧ h.bias = ⟨0, 1⟩ ∨ (c = 'ᛌ' ∨ c = 'ᛍ' ∨ c = 'ᛋ') ∧ h.bias.y = 0) := by
  unfold Heading.ofGlyph? at hc
  unfold Vec.IsCardinal
  split at hc <;> cases hc <;> decide

/-- Whether some start glyph gives this bias. -/
def Vec.IsBias (bias : Vec) : Prop :=
  ∃ c heading, Heading.ofGlyph? c = some heading ∧ heading.bias = bias

namespace Vec.IsBias

variable {bias : Vec}

/-- There are three of them. -/
theorem iff_mem : bias.IsBias ↔ bias = .zero ∨ bias = ⟨0, 1⟩ ∨ bias = ⟨1, 0⟩ := by
  constructor
  · rintro ⟨c, heading, hc, rfl⟩
    unfold Heading.ofGlyph? at hc
    split at hc <;> cases hc <;> decide
  · rintro (rfl | rfl | rfl)
    · exact ⟨'ᛌ', _, rfl, rfl⟩
    · exact ⟨'ᛊ', _, rfl, rfl⟩
    · exact ⟨'ᛋ', _, rfl, rfl⟩

theorem bounds (h : bias.IsBias) : (0 ≤ bias.x ∧ bias.x ≤ 1) ∧ 0 ≤ bias.y ∧ bias.y ≤ 1 := by
  rcases iff_mem.1 h with rfl | rfl | rfl <;> decide

/-- No start glyph shifts in both directions. -/
theorem flat (h : bias.IsBias) : bias.x = 0 ∨ bias.y = 0 := by
  rcases iff_mem.1 h with rfl | rfl | rfl <;> decide

theorem sheared_or_flat (h : bias.IsBias) : bias = ⟨0, 1⟩ ∨ bias.y = 0 := by
  rcases iff_mem.1 h with rfl | rfl | rfl <;> decide

end Vec.IsBias

end RuneGrid
