import RuneGrid.Grid.Basic

/-!
# Wrapping around the edges

The page is a torus that may be sheared. A pointer that leaves through the bottom comes in at the
first row, one that leaves through the top at the last row, moved sideways by its bias; a pointer
that runs off the end of its row comes in at the other end of the row, moved up or down by its bias.
The shift can lead across another edge or onto a row that is too short, so the rule is applied again
until there is a cell.
-/

namespace RuneGrid

namespace Grid

/-- The row in which a pointer at height `y` continues. -/
def foldRow (g : Grid) (y : Int) : Int :=
  if g.height ≤ y then 0
  else if y < 0 then g.height - 1
  else y

/-- The sideways shift of a pointer at height `y`: that of the edge which it left through. -/
def edgeShift (g : Grid) (bias : Vec) (y : Int) : Int :=
  if g.height ≤ y then bias.x
  else if y < 0 then -bias.x
  else 0

/-- One application of the rule. Whether the row has been left is decided by the column in which the
pointer arrived, without the sideways shift. -/
def fold (g : Grid) (bias p : Vec) : Vec :=
  let row := g.foldRow p.y
  let length := g.rowLength row.toNat
  if length ≤ p.x then ⟨0, row + bias.y⟩
  else if p.x < 0 then ⟨length - 1, row - bias.y⟩
  else ⟨p.x + g.edgeShift bias p.y, row⟩

/-- The first cell among `p` and what the rule makes of it, looking at `n` positions at most. -/
def firstCell (g : Grid) (bias : Vec) : Nat → Vec → Option Vec
  | 0, _ => none
  | n + 1, p => if (g.cell p).isSome then some p else g.firstCell bias n (g.fold bias p)

/-- The cell that a raw position stands for. There is none if the rule leads from `p` to no cell,
as on a row without cells. -/
def wrap (g : Grid) (bias p : Vec) : Option Vec :=
  g.firstCell bias (2 * (g.height + 2)) p

/-- What wrapping finds is a cell. -/
theorem cell_isSome_of_firstCell {g : Grid} {bias p q : Vec} {n : Nat}
    (h : g.firstCell bias n p = some q) : (g.cell q).isSome := by
  induction n generalizing p with
  | zero => cases h
  | succ n ih =>
    unfold firstCell at h
    split at h
    · cases h; assumption
    · exact ih h

theorem cell_isSome_of_wrap {g : Grid} {bias p q : Vec} (h : g.wrap bias p = some q) :
    (g.cell q).isSome :=
  cell_isSome_of_firstCell h

/-- A cell stands for itself. -/
theorem wrap_of_cell {g : Grid} {bias p : Vec} (h : (g.cell p).isSome) :
    g.wrap bias p = some p := by
  have : 2 * (g.height + 2) = (2 * g.height + 3) + 1 := by omega
  rw [wrap, this, firstCell, if_pos h]

end Grid

end RuneGrid
