import RuneGrid.Proofs.Grid.Reading
import RuneGrid.Proofs.Heading

/-!
# When there is nowhere to land

`wrap_eq_none_iff_of_flat`: without a vertical shift, a raw position stays in the row
in which it continues, so it lands unless that row is empty.

`wrap_isSome_of_sheared`: the row-sheared pointer goes on to the next cell of the page, so
it lands wherever there is a cell at all.

`wrap_eq_none_iff_of_step` puts the two together for a step from a cell.
-/

namespace RuneGrid

namespace Grid

variable {g : Grid} {bias p : Vec}

/-! ### Without a sideways shift -/

/-- Within the columns of its row, a pointer without a sideways shift stays in its column. -/
theorem wrap_of_stays (hb : bias.x = 0) (h : g.StaysInRow p) :
    g.wrap bias p = some ⟨p.x, g.row p⟩ := by
  have hshift : g.edgeShift bias p.y = 0 := edgeShift_of_x_eq_zero hb p.y
  have hcell := cell_isSome_of_column (g.row_lt p) h.1 h.2
  rw [← wrap_fold, h.fold_eq, hshift, Int.add_zero, wrap_of_cell hcell]

/-! ### Without a vertical shift -/

theorem row_fold_of_flat (hb : bias.y = 0) : g.row (g.fold bias p) = g.row p := by
  have hlt := g.row_lt p
  rcases g.exit_cases p with he | he | he
  · rw [he.fold_eq, hb, Int.add_zero, row_natCast _ hlt]
  · rw [he.fold_eq, hb, Int.sub_zero, row_natCast _ hlt]
  · exact row_fold_of_stays he

theorem row_orbit_of_flat (hb : bias.y = 0) (n : Nat) : g.row (g.orbit bias p n) = g.row p := by
  induction n with
  | zero => rfl
  | succ n ih => rw [orbit_succ, row_fold_of_flat hb, ih]

/-- What leaves a row with cells through an end comes in at the other one. -/
theorem cell_fold_of_flat (hb : bias.y = 0) (hr : g.rowLength (g.row p) ≠ 0)
    (he : ¬ g.StaysInRow p) : (g.cell (g.fold bias p)).isSome := by
  have hlt := g.row_lt p
  rw [isSome_cell_iff, StaysInRow, row_fold_of_flat hb]
  rcases g.exit_cases p with h | h | h
  · rw [h.fold_eq, hb]
    dsimp only
    omega
  · rw [h.fold_eq, hb]
    dsimp only
    omega
  · exact absurd h he

theorem wrap_isSome_of_flat (hb : bias.y = 0) (hr : g.rowLength (g.row p) ≠ 0) :
    (g.wrap bias p).isSome := by
  rw [← wrap_fold]
  by_cases h0 : g.StaysInRow p
  · -- the sideways shift may lead out of the row once more
    by_cases h1 : g.StaysInRow (g.fold bias p)
    · have hc : (g.cell (g.fold bias p)).isSome := by
        refine isSome_cell_iff.2 ⟨h1, ?_⟩
        rw [h0.fold_eq]
        exact ⟨Int.natCast_nonneg _, Int.ofNat_lt.2 (g.row_lt p)⟩
      rw [wrap_of_cell hc, Option.isSome_some]
    · have hr1 : g.rowLength (g.row (g.fold bias p)) ≠ 0 := by rwa [row_fold_of_flat hb]
      rw [← wrap_fold, wrap_of_cell (cell_fold_of_flat hb hr1 h1), Option.isSome_some]
  · rw [wrap_of_cell (cell_fold_of_flat hb hr h0), Option.isSome_some]

theorem wrap_eq_none_iff_of_flat (hb : bias.y = 0) :
    g.wrap bias p = none ↔ g.rowLength (g.row p) = 0 := by
  constructor
  · intro hw
    by_contra hr
    have hsome := wrap_isSome_of_flat hb hr
    rw [hw] at hsome
    cases hsome
  · intro hr
    rw [wrap_eq_none_iff]
    intro n
    rw [← Option.not_isSome_iff_eq_none, isSome_cell_iff, StaysInRow, row_orbit_of_flat hb, hr]
    omega

/-! ### With the bias of the row-sheared pointer -/

theorem wrap_isSome_of_not_left {c : Vec} (hc : (g.cell c).isSome) (hp : ¬ ExitsLeft p) :
    (g.wrap ⟨0, 1⟩ p).isSome := by
  have hrow := g.row_lt p
  rw [← wrap_fold]
  rcases g.exit_cases p with he | he | he
  · obtain ⟨d, hd, -⟩ := wrap_left_edge hc (y := g.row p + 1) hrow
    rw [he.fold_eq]
    exact Option.isSome_of_eq_some hd
  · exact absurd he hp
  · rw [wrap_fold, wrap_of_stays rfl he, Option.isSome_some]

/-- On a grid with a cell, only a left exit from an empty row could keep the row-sheared pointer
from landing. -/
theorem wrap_isSome_of_sheared {c : Vec} (hc : (g.cell c).isSome)
    (hp : ExitsLeft p → g.rowLength (g.row p) ≠ 0) : (g.wrap ⟨0, 1⟩ p).isSome := by
  by_cases he : ExitsLeft p
  · have := hp he
    rw [← wrap_fold]
    refine wrap_isSome_of_not_left hc ?_
    rw [he.fold_eq]
    unfold ExitsLeft
    dsimp only
    omega
  · exact wrap_isSome_of_not_left hc he

/-! ### A step from a cell -/

/-- A horizontal step leads back to its own row, which has a cell. -/
theorem rowLength_row_of_horizontal {c v : Vec} (hc : (g.cell c).isSome) (hv : v.y = 0) :
    g.rowLength (g.row (c + v)) ≠ 0 := by
  obtain ⟨⟨h0, h1⟩, hy0, hy1⟩ := isSome_cell_iff.1 hc
  have hy : (c + v).y = c.y := by
    rw [Vec.add_y, hv, Int.add_zero]
  rw [row, hy, ← row]
  omega

/-- **When a step from a cell strands**: without a vertical shift, on an empty row. -/
theorem wrap_eq_none_iff_of_step {c v : Vec} (hc : (g.cell c).isSome) (hv : v.IsCardinal)
    (hb : bias = ⟨0, 1⟩ ∨ bias.y = 0) :
    g.wrap bias (c + v) = none ↔ bias.y = 0 ∧ g.rowLength (g.row (c + v)) = 0 := by
  rcases hb with rfl | hb
  · obtain ⟨⟨h0, -⟩, -, -⟩ := isSome_cell_iff.1 hc
    have hsome : (g.wrap ⟨0, 1⟩ (c + v)).isSome := by
      refine wrap_isSome_of_sheared hc fun he => ?_
      rcases hv.horizontal_or_vertical with ⟨hy, -⟩ | ⟨hx, -⟩
      · exact rowLength_row_of_horizontal hc hy
      · unfold ExitsLeft at he
        rw [Vec.add_x, hx] at he
        omega
    constructor
    · intro h
      rw [h] at hsome
      cases hsome
    · rintro ⟨h, -⟩
      exact absurd h (by decide)
  · rw [wrap_eq_none_iff_of_flat hb]
    exact (and_iff_right hb).symm

end Grid

end RuneGrid
