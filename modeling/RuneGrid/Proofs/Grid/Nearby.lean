import RuneGrid.Proofs.Grid.Landing
import RuneGrid.Proofs.Heading

/-!
# Next to the page

A step from a cell leads at most one row or column off the page (`Near`), and whatever the rule of
`Grid.wrap` is applied to, it leads no further (`near_fold`).  So the whole orbit of a step stays next
to the page.

On the way the rule moves the column sideways, also where the row has been left and the moved column
is not used.  This stays next to the page as well (`StaysNear`), because the bottom and the top are
left above and below cells only: by a vertical step, or by a bias that has no sideways shift.  Main
statements: `staysNear_of_step`, `StaysNear.orbit`.
-/

namespace RuneGrid

namespace Grid

variable {g : Grid} {bias c p v : Vec}

/-- The length of the longest row. -/
def width (g : Grid) : Nat :=
  (g.rows.map List.length).max (mt List.map_eq_nil_iff.1 g.rows_ne_nil)

theorem rowLength_le_width (g : Grid) (y : Nat) : g.rowLength y ≤ g.width := by
  rw [rowLength]
  cases h : g.rows[y]? with
  | none => exact Nat.zero_le _
  | some row => exact List.le_max_of_mem (List.mem_map_of_mem (List.mem_of_getElem? h))

/-- On the page, or one row or column off it. -/
structure Near (g : Grid) (p : Vec) : Prop where
  left : -1 ≤ p.x
  right : p.x ≤ g.width
  top : -1 ≤ p.y
  bottom : p.y ≤ g.height

/-- Next to the page, and still so if the column is moved as at the edge that has been left. -/
structure StaysNear (g : Grid) (bias p : Vec) : Prop where
  near : g.Near p
  shifted : g.Near ⟨p.x + g.edgeShift bias p.y, p.y⟩

theorem Near.of_cell (h : (g.cell p).isSome) : g.Near p := by
  obtain ⟨⟨h0, h1⟩, hy0, hy1⟩ := isSome_cell_iff.1 h
  have hw := g.rowLength_le_width (g.row p)
  constructor <;> omega

/-- Within the rows of the page, and without a sideways shift anywhere, no column is moved. -/
theorem Near.staysNear (h : g.Near p) (hb : bias.x = 0 ∨ 0 ≤ p.y ∧ p.y < g.height) :
    g.StaysNear bias p := by
  have hshift : g.edgeShift bias p.y = 0 := by
    rcases hb with hb | ⟨h0, h1⟩
    · exact edgeShift_of_x_eq_zero hb p.y
    · exact edgeShift_of_lt h0 h1
  refine ⟨h, ?_⟩
  rw [hshift, Int.add_zero]
  exact h

theorem edgeShift_bounds (hb : bias.IsBias) (y : Int) :
    -1 ≤ g.edgeShift bias y ∧ g.edgeShift bias y ≤ 1 := by
  obtain ⟨⟨h0, h1⟩, -⟩ := hb.bounds
  unfold edgeShift
  split
  · omega
  · split <;> omega

/-! ### The rule -/

/-- **The rule leads next to the page**, wherever it is applied. -/
theorem near_fold (hb : bias.IsBias) (p : Vec) : g.Near (g.fold bias p) := by
  obtain ⟨-, hy⟩ := hb.bounds
  have hrow := g.row_lt p
  have hw := g.rowLength_le_width (g.row p)
  have hshift := edgeShift_bounds (g := g) hb p.y
  rcases g.exit_cases p with h | h | h
  · rw [h.fold_eq]
    constructor <;> dsimp only <;> omega
  · rw [h.fold_eq]
    constructor <;> dsimp only <;> omega
  · have hx := h
    unfold StaysInRow at hx
    rw [h.fold_eq]
    constructor <;> dsimp only <;> omega

/-- Without a vertical shift, it leads into the rows of the page. -/
theorem fold_y_of_flat (hb : bias.y = 0) (p : Vec) : (g.fold bias p).y = g.row p := by
  rcases g.exit_cases p with h | h | h
  · rw [h.fold_eq, hb]
    exact Int.add_zero _
  · rw [h.fold_eq, hb]
    exact Int.sub_zero _
  · rw [h.fold_eq]

theorem staysNear_fold (hb : bias.IsBias) (p : Vec) : g.StaysNear bias (g.fold bias p) := by
  refine (near_fold hb p).staysNear (hb.flat.imp_right fun hy => ?_)
  have hrow := g.row_lt p
  rw [fold_y_of_flat hy]
  omega

/-! ### A step and its orbit -/

/-- **A step from a cell leads next to the page.** -/
theorem staysNear_of_step (hc : (g.cell c).isSome) (hv : v.IsCardinal) (hb : bias.IsBias) :
    g.StaysNear bias (c + v) := by
  obtain ⟨⟨h0, h1⟩, hy0, hy1⟩ := isSome_cell_iff.1 hc
  have hw := g.rowLength_le_width (g.row c)
  have hx : (c + v).x = c.x + v.x := rfl
  have hy : (c + v).y = c.y + v.y := rfl
  rcases hv.horizontal_or_vertical with ⟨hvy, hvx⟩ | ⟨hvx, hvy⟩
  · have hnear : g.Near (c + v) := by
      constructor <;> omega
    exact hnear.staysNear (Or.inr (by omega))
  · -- a vertical step keeps its column, which leaves room for the shift
    have hshift := edgeShift_bounds (g := g) hb (c + v).y
    constructor
    · constructor <;> omega
    · constructor <;> dsimp only <;> omega

/-- **The whole orbit stays next to the page.** -/
theorem StaysNear.orbit (h : g.StaysNear bias p) (hb : bias.IsBias) (n : Nat) :
    g.StaysNear bias (g.orbit bias p n) := by
  cases n with
  | zero => exact h
  | succ n =>
    rw [orbit_succ]
    exact staysNear_fold hb _

end Grid

end RuneGrid
