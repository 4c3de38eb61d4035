import RuneGrid.Proofs.Grid.Nearby
import RuneGrid.Word

/-!
# Coordinates in words

Positions and velocities are integers of any size.  The operations of this module are those on
coordinates as they are carried out in words of 64 bits: every sum, difference and negation on the
way, and every length that is compared with a coordinate, has to fit in a word, and there is no
result if one of them does not.

Next to the page everything fits, if the number of rows and their lengths do.  So the operations
agree there with those on integers: `Vec.turned?_eq`, `Grid.Near.add?_eq`, `Grid.fold?_eq` and, for
all looks of `Grid.wrap`, `Grid.wrap?_eq`.
-/

namespace RuneGrid

namespace Word

variable {a b n : Int}

/-- Some word has this value. -/
def Fits (n : Int) : Prop :=
  (ofInt? n).isSome

instance : Decidable (Fits n) :=
  inferInstanceAs (Decidable (_ = true))

theorem fits_zero : Fits 0 := by decide

/-- The number itself, if it fits. -/
def fit? (n : Int) : Option Int :=
  (ofInt? n).map Int64.toInt

theorem Fits.fit?_eq (h : Fits n) : fit? n = some n := by
  obtain ⟨w, hw⟩ := Option.isSome_iff_exists.1 h
  rw [fit?, hw, Option.map_some, ofInt?_eq_some_iff.1 hw]

example : fit? 9223372036854775807 = some 9223372036854775807 ∧ fit? 9223372036854775808 = none := by
  decide

/-- What lies between two numbers that fit does so too. -/
theorem Fits.of_le_of_le (ha : Fits a) (hb : Fits b) (h1 : a ≤ n) (h2 : n ≤ b) : Fits n := by
  unfold Fits at *
  rw [Option.isSome_iff_ne_none, ne_eq, ofInt?_eq_none_iff] at *
  omega

end Word

/-! ### Velocities -/

namespace Vec

variable {a b v : Vec}

/-- The sum. -/
def add? (a b : Vec) : Option Vec := do
  return ⟨← Word.fit? (a.x + b.x), ← Word.fit? (a.y + b.y)⟩

theorem add?_eq (hx : Word.Fits (a + b).x) (hy : Word.Fits (a + b).y) : a.add? b = some (a + b) := by
  rw [add?, ← add_x, ← add_y, hx.fit?_eq, hy.fit?_eq]
  rfl

/-- The velocity after a turn. -/
def turned? (v : Vec) : Turn → Option Vec
  | .plus90 | .minus90 => some ⟨v.y, v.x⟩
  | .half => do return ⟨← Word.fit? (-v.x), ← Word.fit? (-v.y)⟩
  | .clockwise => do return ⟨← Word.fit? (-v.y), v.x⟩

theorem turned?_eq (h : v.IsCardinal) (t : Turn) : v.turned? t = some (t.apply v) := by
  rcases h with rfl | rfl | rfl | rfl <;> cases t <;> decide

end Vec

/-! ### Wrapping -/

namespace Grid

variable {g : Grid} {bias p v : Vec}

/-- The number of rows and their lengths fit in words. -/
structure FitsWords (g : Grid) : Prop where
  height : Word.Fits g.height
  width : Word.Fits g.width

/-- The vertical half of the rule: the row in which the position continues, and the column moved as
at the edge that has been left. -/
def cross? (g : Grid) (bias p : Vec) : Option Vec := do
  let height ← Word.fit? g.height
  if height ≤ p.y then return ⟨← Word.fit? (p.x + bias.x), 0⟩
  else if p.y < 0 then return ⟨← Word.fit? (p.x - bias.x), ← Word.fit? (height - 1)⟩
  else return p

/-- One application of the rule.  Only a row whose number is not negative is looked up. -/
def fold? (g : Grid) (bias p : Vec) : Option Vec := do
  let q ← g.cross? bias p
  let length ← Word.fit? (g.rowLength (← q.y.toNat?))
  if length ≤ p.x then return ⟨0, ← Word.fit? (q.y + bias.y)⟩
  else if p.x < 0 then return ⟨← Word.fit? (length - 1), ← Word.fit? (q.y - bias.y)⟩
  else return q

/-- The looks of `firstCell`; what is found may be nothing. -/
def firstCell? (g : Grid) (bias : Vec) : Nat → Vec → Option (Option Vec)
  | 0, _ => some none
  | n + 1, p => do
    if (g.cell p).isSome then return some p else g.firstCell? bias n (← g.fold? bias p)

/-- The cell that a raw position stands for, if there is one. -/
def wrap? (g : Grid) (bias p : Vec) : Option (Option Vec) :=
  g.firstCell? bias (2 * (g.height + 2)) p

/-- **Next to the page, all coordinates fit.** -/
theorem Near.fits (h : g.Near p) (hg : g.FitsWords) : Word.Fits p.x ∧ Word.Fits p.y := by
  have hlow : Word.Fits (-1) := by decide
  exact ⟨hlow.of_le_of_le hg.width h.left h.right, hlow.of_le_of_le hg.height h.top h.bottom⟩

theorem FitsWords.rowLength (hg : g.FitsWords) (y : Nat) : Word.Fits (g.rowLength y) := by
  have hw := g.rowLength_le_width y
  exact Word.fits_zero.of_le_of_le hg.width (by omega) (by omega)

theorem Near.add?_eq (h : g.Near (p + v)) (hg : g.FitsWords) : p.add? v = some (p + v) := by
  obtain ⟨hx, hy⟩ := h.fits hg
  exact Vec.add?_eq hx hy

theorem cross?_eq (hg : g.FitsWords) (h : g.StaysNear bias p) :
    g.cross? bias p = some ⟨p.x + g.edgeShift bias p.y, g.row p⟩ := by
  obtain ⟨hx, -⟩ := h.shifted.fits hg
  rw [cross?, hg.height.fit?_eq, ← foldRow_eq]
  dsimp only [Option.bind_eq_bind, Option.bind_some] at hx ⊢
  rcases lt_or_ge p.y 0 with htop | h0
  · have hpos := g.height_pos
    have hlast : Word.Fits (g.height - 1) := Word.fits_zero.of_le_of_le hg.height (by omega) (by omega)
    rw [edgeShift_of_neg htop, ← Int.sub_eq_add_neg] at hx ⊢
    rw [if_neg (by omega), if_pos htop, hx.fit?_eq, hlast.fit?_eq, foldRow_of_neg htop]
    rfl
  · rcases lt_or_ge p.y g.height with h1 | hbottom
    · rw [if_neg (by omega), if_neg (by omega), edgeShift_of_lt h0 h1, foldRow_of_lt h0 h1,
        Int.add_zero]
      rfl
    · rw [edgeShift_of_height_le hbottom] at hx ⊢
      rw [if_pos hbottom, hx.fit?_eq, foldRow_of_height_le hbottom]
      rfl

/-- **The rule, applied next to the page, is the same in words.** -/
theorem fold?_eq (hg : g.FitsWords) (hb : bias.IsBias) (h : g.StaysNear bias p) :
    g.fold? bias p = some (g.fold bias p) := by
  obtain ⟨hx, hy⟩ := (near_fold (g := g) hb p).fits hg
  have hlen := hg.rowLength (g.row p)
  have hrow : (g.row p : Int).toNat? = some (g.row p) := rfl
  rw [fold?, cross?_eq hg h]
  dsimp only [Option.bind_eq_bind, Option.bind_some]
  rw [hrow, Option.bind_some, hlen.fit?_eq, Option.bind_some]
  rcases g.exit_cases p with he | he | he
  · have hright : (g.rowLength (g.row p) : Int) ≤ p.x := he
    rw [he.fold_eq] at hy ⊢
    rw [if_pos hright, hy.fit?_eq]
    rfl
  · have hleft : p.x < 0 := he
    rw [he.fold_eq] at hx hy ⊢
    rw [if_neg (by omega), if_pos hleft, hx.fit?_eq, hy.fit?_eq]
    rfl
  · rw [if_neg (not_le.2 he.2), if_neg (not_lt.2 he.1), he.fold_eq]
    rfl

theorem firstCell?_eq (hg : g.FitsWords) (hb : bias.IsBias) (h : g.StaysNear bias p) (n : Nat) :
    g.firstCell? bias n p = some (g.firstCell bias n p) := by
  induction n generalizing p with
  | zero => rfl
  | succ n ih =>
    rw [firstCell?, firstCell]
    by_cases hc : (g.cell p).isSome
    · rw [if_pos hc, if_pos hc]
      rfl
    · rw [if_neg hc, if_neg hc, fold?_eq hg hb h]
      exact ih (staysNear_fold hb p)

/-- **Wrapping is the same in words**, from next to the page. -/
theorem wrap?_eq (hg : g.FitsWords) (hb : bias.IsBias) (h : g.StaysNear bias p) :
    g.wrap? bias p = some (g.wrap bias p) :=
  firstCell?_eq hg hb h _

end Grid

end RuneGrid
