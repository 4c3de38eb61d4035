import RuneGrid.Diagnostic.Error

/-!
# The grid

A program is a page of cells: at least one row, each of any length, down to none. Nothing changes a
grid once it is built.
-/

namespace RuneGrid

@[ext]
structure Grid where
  rows : List (List Char)
  rows_ne_nil : rows ≠ []

namespace Grid

/-- The grid with these rows, unless there are none. -/
def ofRows (rows : List (List Char)) : Except LoadError Grid :=
  if h : rows = [] then .error .emptySource else .ok ⟨rows, h⟩

def height (g : Grid) : Nat :=
  g.rows.length

/-- The number of cells in a row, 0 for a row that does not exist. -/
def rowLength (g : Grid) (y : Nat) : Nat :=
  (g.rows[y]?.getD []).length

/-- The glyph at a position, if there is a cell. -/
def cell (g : Grid) (p : Vec) : Option Char := do
  let x ← p.x.toNat?
  let y ← p.y.toNat?
  (← g.rows[y]?)[x]?

/-- All cells with their positions, row by row. -/
def cells (g : Grid) : List (Vec × Char) :=
  g.rows.zipIdx.flatMap fun (row, y) => row.zipIdx.map fun (c, x) => (⟨x, y⟩, c)

/-- The rows as text. -/
def render (g : Grid) : List String :=
  g.rows.map String.ofList

theorem height_pos (g : Grid) : 0 < g.height :=
  List.length_pos_iff.2 g.rows_ne_nil

theorem ofRows_eq_ok_iff {rows : List (List Char)} {g : Grid} :
    ofRows rows = .ok g ↔ g.rows = rows := by
  unfold ofRows
  constructor
  · split <;> intro h <;> cases h
    rfl
  · rintro rfl
    rw [dif_neg g.rows_ne_nil]

/-- A position is a cell exactly within the height of the grid and the length of its row. -/
theorem cell_isSome_iff {g : Grid} {p : Vec} :
    (g.cell p).isSome ↔ 0 ≤ p.x ∧ p.x < g.rowLength p.y.toNat ∧ 0 ≤ p.y ∧ p.y < g.height := by
  obtain ⟨x, y⟩ := p
  unfold cell rowLength height
  rcases x with x | x <;> rcases y with y | y <;> simp [Int.toNat?]
  · cases h : g.rows[y]? with
    | none => simp at h ⊢
    | some row =>
      obtain ⟨hy, -⟩ := List.getElem?_eq_some_iff.1 h
      simp [hy]

end Grid

end RuneGrid
