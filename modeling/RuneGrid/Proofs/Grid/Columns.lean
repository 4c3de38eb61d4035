import RuneGrid.Proofs.Grid.Formula
import RuneGrid.Proofs.Grid.Torus

/-!
# Reading the page column by column

On a page whose rows all have the same length, the cells can be numbered column by column as well
(`Grid.columnNumber`).  A pointer with a sideways shift that goes south passes from cell to cell in
this order and from the last one to the first (`IsRectangular.wrap_south`): at the foot of a column
it leaves the page, and the shift takes it to the head of the next one, in the last column beyond
the end of the first row and so back to the front.

`Pointer.reads_down_columns` states it for any number of steps.
-/

namespace RuneGrid

namespace Grid

variable {g : Grid} {w n x y : Nat} {c d p : Vec}

/-- The number of a cell, counting column by column from 0. -/
def columnNumber (g : Grid) (p : Vec) : Nat :=
  p.x.toNat * g.height + p.y.toNat

theorem columnNumber_natCast (g : Grid) (x y : Nat) :
    g.columnNumber ⟨x, y⟩ = x * g.height + y := rfl

/-- The column is the quotient of the number by the height, and the row is the remainder. -/
theorem columnNumber_div_mod (hy : y < g.height) :
    g.columnNumber ⟨x, y⟩ / g.height = x ∧ g.columnNumber ⟨x, y⟩ % g.height = y := by
  rw [Nat.div_mod_unique g.height_pos, columnNumber_natCast, Nat.mul_comm, Nat.add_comm]
  exact ⟨rfl, hy⟩

namespace IsRectangular

theorem cell_natCast_isSome (hr : g.IsRectangular w) (hx : x < w) (hy : y < g.height) :
    (g.cell ⟨x, y⟩).isSome :=
  hr.cell_isSome_iff.2 ⟨⟨Int.natCast_nonneg x, Int.ofNat_lt.2 hx⟩, Int.natCast_nonneg y,
    Int.ofNat_lt.2 hy⟩

theorem exists_natCast (hr : g.IsRectangular w) (hc : (g.cell c).isSome) :
    ∃ x y : Nat, x < w ∧ y < g.height ∧ c = ⟨x, y⟩ := by
  obtain ⟨⟨hx0, hx1⟩, hy0, hy1⟩ := hr.cell_isSome_iff.1 hc
  refine ⟨c.x.toNat, c.y.toNat, by omega, by omega, ?_⟩
  rw [Int.toNat_of_nonneg hx0, Int.toNat_of_nonneg hy0]

theorem columnNumber_lt (hr : g.IsRectangular w) (hc : (g.cell c).isSome) :
    g.columnNumber c < w * g.height := by
  obtain ⟨x, y, hx, hy, rfl⟩ := hr.exists_natCast hc
  calc g.columnNumber ⟨x, y⟩
    _ = x * g.height + y := columnNumber_natCast g x y
    _ < (x + 1) * g.height := by
      rw [Nat.succ_mul]
      omega
    _ ≤ w * g.height := Nat.mul_le_mul_right _ hx

theorem columnNumber_inj (hr : g.IsRectangular w) (hc : (g.cell c).isSome)
    (hd : (g.cell d).isSome) (h : g.columnNumber c = g.columnNumber d) : c = d := by
  obtain ⟨x, y, -, hy, rfl⟩ := hr.exists_natCast hc
  obtain ⟨x', y', -, hy', rfl⟩ := hr.exists_natCast hd
  obtain ⟨hcolumn, hrow⟩ := columnNumber_div_mod (x := x) hy
  obtain ⟨hcolumn', hrow'⟩ := columnNumber_div_mod (x := x') hy'
  rw [h, hcolumn'] at hcolumn
  rw [h, hrow'] at hrow
  rw [hcolumn, hrow]

/-- Every number below the number of cells belongs to a cell. -/
theorem exists_columnNumber (hr : g.IsRectangular w) (hn : n < w * g.height) :
    ∃ c, (g.cell c).isSome ∧ g.columnNumber c = n := by
  refine ⟨⟨(n / g.height : Nat), (n % g.height : Nat)⟩, hr.cell_natCast_isSome ?_ ?_, ?_⟩
  · exact Nat.div_lt_of_lt_mul (by rwa [Nat.mul_comm])
  · exact Nat.mod_lt _ g.height_pos
  · rw [columnNumber_natCast, Nat.div_add_mod']

/-- Below the foot of a column is the head of the next one. -/
theorem wrap_below_column (hr : g.IsRectangular w) (hx : x < w) :
    g.wrap ⟨1, 0⟩ ⟨x, g.height⟩ = some ⟨((x + 1) % w : Nat), (0 : Nat)⟩ := by
  have hrow : g.row ⟨x, g.height⟩ = 0 := row_of_height_le (le_refl _)
  have hlen : g.rowLength 0 = w := by
    rw [← hrow]
    exact hr.rowLength_row _
  have hstay : g.StaysInRow ⟨x, g.height⟩ := by
    rw [StaysInRow, hrow, hlen]
    exact ⟨Int.natCast_nonneg x, Int.ofNat_lt.2 hx⟩
  rw [wrap_of_turn hrow hstay (edgeShift_of_height_le (le_refl _)) (Or.inl rfl), hlen]
  rfl

/-- **A step to the south goes to the next cell, column by column.** -/
theorem wrap_south (hr : g.IsRectangular w) (hp : (g.cell p).isSome) :
    ∃ c, g.wrap ⟨1, 0⟩ (p + .south) = some c ∧
      g.columnNumber c = (g.columnNumber p + 1) % (w * g.height) := by
  obtain ⟨x, y, hx, hy, rfl⟩ := hr.exists_natCast hp
  have hsouth : (⟨x, y⟩ : Vec) + .south = ⟨x, (y + 1 : Nat)⟩ := by
    ext
    · exact Int.add_zero _
    · rfl
  rw [hsouth, columnNumber_natCast]
  by_cases hlast : y + 1 < g.height
  · have hcell := hr.cell_natCast_isSome hx hlast
    have hlt := hr.columnNumber_lt hcell
    rw [columnNumber_natCast, ← Nat.add_assoc] at hlt
    refine ⟨_, wrap_of_cell hcell, ?_⟩
    rw [columnNumber_natCast, Nat.mod_eq_of_lt hlt, Nat.add_assoc]
  · have hfoot : y + 1 = g.height := by omega
    rw [hfoot]
    refine ⟨_, hr.wrap_below_column hx, ?_⟩
    calc g.columnNumber ⟨((x + 1) % w : Nat), (0 : Nat)⟩
      _ = (x + 1) % w * g.height := columnNumber_natCast g _ 0
      _ = (x + 1) * g.height % (w * g.height) := (Nat.mul_mod_mul_right _ _ _).symm
      _ = (x * g.height + y + 1) % (w * g.height) := by rw [Nat.succ_mul, Nat.add_assoc, hfoot]

end IsRectangular

end Grid

/-- **The column-sheared pointer reads the page column by column.**  The numbers below the number of
cells belong to one cell each; after any number of steps the pointer is on the cell that is so many
numbers on, and it passes each cell once while it goes around the page. -/
theorem Pointer.reads_down_columns {g : Grid} {w : Nat} {p : Pointer} (hr : g.IsRectangular w)
    (hb : p.bias = ⟨1, 0⟩) (hv : p.velocity = .south) (hp : (g.cell p.pos).isSome) :
    (∀ n < w * g.height, ∃! c, (g.cell c).isSome ∧ g.columnNumber c = n) ∧
    (∀ k, ∃ pos, p.strides g k = some { p with pos } ∧ (g.cell pos).isSome ∧
      g.columnNumber pos = (g.columnNumber p.pos + k) % (w * g.height)) ∧
    ∀ c, (g.cell c).isSome → ∀ m, ∃! k, m ≤ k ∧ k < m + w * g.height ∧
      (p.strides g k).map (·.pos) = some c := by
  have hf : p.Follows g g.columnNumber (w * g.height) := by
    refine ⟨hr.columnNumber_lt, hr.columnNumber_inj, fun hc => ?_⟩
    rw [hb, hv]
    exact hr.wrap_south hc
  refine ⟨fun n hn => ?_, hf.strides hp, fun c hc => hf.existsUnique_stride hp hc⟩
  obtain ⟨c, hc, hcn⟩ := hr.exists_columnNumber hn
  exact ⟨c, ⟨hc, hcn⟩, fun d hd => hr.columnNumber_inj hd.1 hc (hd.2.trans hcn.symm)⟩

/-- The pointer of `sheet` starts at the foot of the last column.  One step takes it to the first
cell, four to the head of its own column and six around the page. -/
theorem Pointer.reads_sheet : Grid.sheet.IsRectangular 2 ∧ ∃ p, Grid.sheet.pointers[0]? = some p ∧
    p.bias = ⟨1, 0⟩ ∧ p.velocity = .south ∧ (Grid.sheet.cell p.pos).isSome ∧
    p.strides .sheet 1 = some { p with pos := ⟨0, 0⟩ } ∧
    p.strides .sheet 4 = some { p with pos := ⟨1, 0⟩ } ∧
    p.strides .sheet 6 = some p ∧
    ∃! k, 6 ≤ k ∧ k < 12 ∧ (p.strides .sheet k).map (·.pos) = some ⟨0, 2⟩ := by
  have hr : Grid.sheet.IsRectangular 2 := ⟨by decide, by decide⟩
  obtain ⟨-, hall, hunique⟩ := reads_down_columns
    (p := ⟨0, ⟨1, 2⟩, ⟨1, 2⟩, 'ᛋ', .south, ⟨1, 0⟩, some 0⟩) hr rfl rfl rfl
  refine ⟨hr, _, rfl, rfl, rfl, rfl, ?_, ?_, ?_, hunique ⟨0, 2⟩ rfl 6⟩
  · obtain ⟨pos, hk, hc, hn⟩ := hall 1
    obtain rfl : pos = ⟨0, 0⟩ := hr.columnNumber_inj hc rfl hn
    exact hk
  · obtain ⟨pos, hk, hc, hn⟩ := hall 4
    obtain rfl : pos = ⟨1, 0⟩ := hr.columnNumber_inj hc rfl hn
    exact hk
  · obtain ⟨pos, hk, hc, hn⟩ := hall 6
    obtain rfl : pos = ⟨1, 2⟩ := hr.columnNumber_inj hc rfl hn
    exact hk

end RuneGrid
