import Mathlib.Data.Nat.ModEq
import RuneGrid.Proofs.Grid.Landing
import RuneGrid.Proofs.Program

/-!
# Reading the page like text

The cells of a grid are numbered row by row (`Grid.number`), as `Grid.cells` lists them.  A
pointer with a vertical shift that goes east passes from cell to cell in this order and from
the last one to the first (`Grid.wrap_east`).  At the end of a row it continues at the left
edge of the next one, and where that row is empty one row further down: what lies between
the left edge of a row and the next cell has no number (`Grid.wrap_left_edge`).

`Pointer.reads_in_order` states it for any number of steps.
-/

namespace RuneGrid

/-- Where the pieces of a `flatMap` start. -/
theorem getElem?_flatMap {α β : Type} {f : α → List β} {l : List α} {y x : Nat} {a : α}
    (ha : l[y]? = some a) (hx : x < (f a).length) :
    (l.flatMap f)[((l.map fun b => (f b).length).take y).sum + x]? = (f a)[x]? := by
  induction l generalizing y with
  | nil => cases ha
  | cons b l ih =>
    rw [List.flatMap_cons, List.map_cons]
    cases y with
    | zero =>
      cases ha
      rw [List.take_zero, List.sum_nil, Nat.zero_add, List.getElem?_append_left hx]
    | succ y =>
      rw [List.take_succ_cons, List.sum_cons, Nat.add_assoc,
        List.getElem?_append_right (Nat.le_add_right _ _), Nat.add_sub_cancel_left]
      exact ih ha

/-- Counting on from `i` modulo `n`, every number comes once in `n` steps. -/
theorem existsUnique_add_mod {i j n : Nat} (hj : j < n) (m : Nat) :
    ∃! k, m ≤ k ∧ k < m + n ∧ (i + k) % n = j := by
  have hr : (i + m) % n < n := Nat.mod_lt _ (by omega)
  -- so many steps lead from the remainder of `i + m` to `j`
  obtain ⟨a, ha, hmod⟩ : ∃ a < n, (i + m + a) % n = j := by
    refine ⟨(j + (n - (i + m) % n)) % n, Nat.mod_lt _ (by omega), ?_⟩
    calc (i + m + (j + (n - (i + m) % n)) % n) % n
      _ = ((i + m) % n + (j + (n - (i + m) % n))) % n := by rw [Nat.add_mod_mod, Nat.mod_add_mod]
      _ = (j + n) % n := by
        congr 1
        omega
      _ = j := by rw [Nat.add_mod_right, Nat.mod_eq_of_lt hj]
  refine ⟨m + a, ⟨by omega, by omega, by rw [← Nat.add_assoc, hmod]⟩, ?_⟩
  rintro k ⟨hmk, hk, hkj⟩
  obtain ⟨b, rfl⟩ := Nat.exists_eq_add_of_le hmk
  rw [← Nat.add_assoc] at hkj
  have hba : b ≡ a [MOD n] := Nat.ModEq.add_left_cancel' (i + m) (hkj.trans hmod.symm)
  rw [hba.eq_of_lt_of_lt (by omega) ha]

namespace Grid

variable {g : Grid} {p q : Vec} {y : Nat}

/-! ### Numbering the cells -/

/-- The number of cells in the rows above the row `y`. -/
def cellsAbove (g : Grid) (y : Nat) : Nat :=
  ((g.rows.map List.length).take y).sum

/-- The number of a cell, counting row by row from 0. -/
def number (g : Grid) (p : Vec) : Nat :=
  g.cellsAbove p.y.toNat + p.x.toNat

theorem cellsAbove_succ (g : Grid) (y : Nat) :
    g.cellsAbove (y + 1) = g.cellsAbove y + g.rowLength y := by
  rw [cellsAbove, cellsAbove, rowLength, List.take_add_one, List.sum_append, List.getElem?_map]
  cases g.rows[y]? <;> simp

/-- The lengths of the pieces from which the list of cells is made. -/
theorem map_length_zipIdx (g : Grid) :
    (g.rows.zipIdx.map fun row => (row.1.zipIdx.map fun c => ((⟨c.2, row.2⟩ : Vec), c.1)).length) =
      g.rows.map List.length := by
  simp only [List.length_map, List.length_zipIdx]
  calc (g.rows.zipIdx.map fun row => row.1.length)
    _ = (g.rows.zipIdx.map Prod.fst).map List.length := by rw [List.map_map]; rfl
    _ = g.rows.map List.length := by rw [List.zipIdx_map_fst]

theorem cellsAbove_height (g : Grid) : g.cellsAbove g.height = g.cells.length := by
  rw [cellsAbove, List.take_of_length_le (by rw [List.length_map]; exact le_refl _), cells,
    List.length_flatMap, map_length_zipIdx]

/-- The numbers are those of the list of cells. -/
theorem getElem?_cells_number {c : Char} (h : g.cell p = some c) :
    g.cells[g.number p]? = some (p, c) := by
  obtain ⟨hx, -, hy, -⟩ := cell_isSome_iff.1 (Option.isSome_of_eq_some h)
  obtain ⟨x, y⟩ := p
  obtain ⟨x, rfl⟩ := Int.eq_ofNat_of_zero_le hx
  obtain ⟨y, rfl⟩ := Int.eq_ofNat_of_zero_le hy
  rw [cell_natCast, Option.bind_eq_some_iff] at h
  obtain ⟨row, hrow, hc⟩ := h
  have hy : g.rows.zipIdx[y]? = some (row, y) := by
    rw [List.getElem?_zipIdx, hrow, Option.map_some, Nat.zero_add]
  have hlen : x < row.length := (List.getElem?_eq_some_iff.1 hc).1
  have := getElem?_flatMap
    (f := fun row => row.1.zipIdx.map fun c => ((⟨c.2, row.2⟩ : Vec), c.1)) hy
    (x := x) (by simpa using hlen)
  rw [map_length_zipIdx] at this
  refine this.trans ?_
  simp [hc]

theorem number_lt (h : (g.cell p).isSome) : g.number p < g.cells.length := by
  obtain ⟨c, hc⟩ := Option.isSome_iff_exists.1 h
  exact (List.getElem?_eq_some_iff.1 (getElem?_cells_number hc)).1

theorem number_inj (hp : (g.cell p).isSome) (hq : (g.cell q).isSome)
    (h : g.number p = g.number q) : p = q := by
  obtain ⟨c, hc⟩ := Option.isSome_iff_exists.1 hp
  obtain ⟨d, hd⟩ := Option.isSome_iff_exists.1 hq
  have := getElem?_cells_number hc
  rw [h, getElem?_cells_number hd] at this
  cases this
  rfl

/-! ### From the left edge -/

theorem cell_left_edge {y : Nat} (hlt : y < g.height) (hy : g.rowLength y ≠ 0) :
    (g.cell ⟨0, y⟩).isSome :=
  cell_isSome_of_column hlt (le_refl _) (Int.ofNat_lt.2 (Nat.pos_of_ne_zero hy))

theorem wrap_left_edge_of_empty (hlt : y < g.height) (hy : g.rowLength y = 0) :
    g.wrap ⟨0, 1⟩ ⟨0, y⟩ = g.wrap ⟨0, 1⟩ ⟨0, (y + 1 : Nat)⟩ := by
  have hrow : g.row ⟨0, y⟩ = y := row_natCast 0 hlt
  have he : g.ExitsRight ⟨0, y⟩ := by
    rw [ExitsRight, hrow, hy]
    exact le_refl _
  rw [← wrap_fold, he.fold_eq, hrow]
  rfl

/-- Below the last row the page starts again at the top. -/
theorem wrap_left_edge_height (g : Grid) :
    g.wrap ⟨0, 1⟩ ⟨0, g.height⟩ = g.wrap ⟨0, 1⟩ ⟨0, (0 : Nat)⟩ := by
  have hrow : g.row ⟨0, g.height⟩ = 0 := row_of_height_le (le_refl _)
  rw [← wrap_fold]
  by_cases h0 : g.rowLength 0 = 0
  · have he : g.ExitsRight ⟨0, g.height⟩ := by
      rw [ExitsRight, hrow, h0]
      exact le_refl _
    rw [he.fold_eq, hrow, wrap_left_edge_of_empty g.height_pos h0]
    rfl
  · have he : g.StaysInRow ⟨0, g.height⟩ := by
      rw [StaysInRow, hrow]
      exact ⟨le_refl _, Int.ofNat_lt.2 (Nat.pos_of_ne_zero h0)⟩
    rw [he.fold_eq, hrow, edgeShift_of_height_le (le_refl _)]
    rfl

/-- From the left edge the way leads down to the next row with cells. -/
theorem wrap_left_edge_of_le {r : Nat} (hlt : r < g.height) (hr : g.rowLength r ≠ 0) (hy : y ≤ r) :
    ∃ c, g.wrap ⟨0, 1⟩ ⟨0, y⟩ = some c ∧ g.number c = g.cellsAbove y := by
  induction hk : r - y generalizing y with
  | zero =>
    obtain rfl : y = r := by omega
    exact ⟨_, wrap_of_cell (cell_left_edge hlt hr), rfl⟩
  | succ k ih =>
    by_cases h0 : g.rowLength y = 0
    · obtain ⟨c, hc, hn⟩ := ih (y := y + 1) (by omega) (by omega)
      rw [cellsAbove_succ, h0, Nat.add_zero] at hn
      exact ⟨c, (wrap_left_edge_of_empty (by omega) h0).trans hc, hn⟩
    · exact ⟨_, wrap_of_cell (cell_left_edge (by omega) h0), rfl⟩

/-- Where there is no such row, it leads to the end of the page. -/
theorem wrap_left_edge_of_rest (hrest : ∀ r < g.height, y ≤ r → g.rowLength r = 0)
    (hy : y ≤ g.height) :
    g.wrap ⟨0, 1⟩ ⟨0, y⟩ = g.wrap ⟨0, 1⟩ ⟨0, g.height⟩ ∧ g.cellsAbove y = g.cells.length := by
  induction hk : g.height - y generalizing y with
  | zero =>
    obtain rfl : y = g.height := by omega
    exact ⟨rfl, g.cellsAbove_height⟩
  | succ k ih =>
    have h0 := hrest y (by omega) (le_refl y)
    obtain ⟨hw, hn⟩ := ih (y := y + 1) (fun r hr hyr => hrest r hr (by omega)) (by omega) (by omega)
    rw [cellsAbove_succ, h0, Nat.add_zero] at hn
    exact ⟨(wrap_left_edge_of_empty (by omega) h0).trans hw, hn⟩

/-- **From the left edge the row-sheared pointer lands on the next cell of the page**, from the
last row on to the first. -/
theorem wrap_left_edge (hp : (g.cell p).isSome) (hy : y ≤ g.height) :
    ∃ c, g.wrap ⟨0, 1⟩ ⟨0, y⟩ = some c ∧ g.number c = g.cellsAbove y % g.cells.length := by
  by_cases hrest : ∀ r < g.height, y ≤ r → g.rowLength r = 0
  · obtain ⟨⟨h0, h1⟩, -⟩ := isSome_cell_iff.1 hp
    obtain ⟨hw, hn⟩ := wrap_left_edge_of_rest hrest hy
    obtain ⟨c, hc, hc0⟩ :=
      wrap_left_edge_of_le (g.row_lt p) (by omega : g.rowLength (g.row p) ≠ 0) (Nat.zero_le _)
    refine ⟨c, ?_, ?_⟩
    · rw [hw, wrap_left_edge_height, hc]
    · rw [hn, Nat.mod_self, hc0]
      rfl
  · push Not at hrest
    obtain ⟨r, hlt, hyr, hr⟩ := hrest
    obtain ⟨c, hc, hn⟩ := wrap_left_edge_of_le hlt hr hyr
    refine ⟨c, hc, ?_⟩
    rw [← hn, Nat.mod_eq_of_lt (number_lt (cell_isSome_of_wrap hc))]

/-! ### Going east -/

/-- **A step to the east goes to the next cell of the page.** -/
theorem wrap_east (hp : (g.cell p).isSome) :
    ∃ c, g.wrap ⟨0, 1⟩ (p + .east) = some c ∧ g.number c = (g.number p + 1) % g.cells.length := by
  obtain ⟨⟨h0, h1⟩, hy0, hy1⟩ := isSome_cell_iff.1 hp
  have hrow : (g.row p : Int) = p.y := row_of_lt hy0 hy1
  have hy : (p + .east).y = p.y := Int.add_zero _
  have hx : (p + .east).x = p.x + 1 := rfl
  have hrow' : g.row (p + .east) = g.row p := by
    rw [row, hy, row]
  by_cases he : p.x + 1 < g.rowLength (g.row p)
  · have hc : (g.cell (p + .east)).isSome := by
      rw [isSome_cell_iff, StaysInRow, hrow', hy, hx]
      exact ⟨⟨by omega, he⟩, hy0, hy1⟩
    have hn : g.number (p + .east) = g.number p + 1 := by
      rw [number, number, hx, hy]
      omega
    exact ⟨_, wrap_of_cell hc, by rw [← hn, Nat.mod_eq_of_lt (number_lt hc)]⟩
  · have hr : g.ExitsRight (p + .east) := by
      rw [ExitsRight, hrow', hx]
      omega
    obtain ⟨c, hw, hn⟩ := wrap_left_edge hp (y := g.row p + 1) (g.row_lt p)
    refine ⟨c, ?_, ?_⟩
    · rw [← wrap_fold, hr.fold_eq, hrow']
      exact hw
    · rw [hn, cellsAbove_succ, number, show p.y.toNat = g.row p by omega]
      congr 1
      omega

end Grid

/-! ### The steps of a pointer -/

namespace Pointer

variable {g : Grid} {p : Pointer}

/-- One step over the page: the pointer moves on and lands. -/
def stride (g : Grid) (p : Pointer) : Option Pointer :=
  (g.wrap p.bias p.advance.pos).map fun pos => { p with pos }

/-- So many steps one after the other. -/
def strides (g : Grid) (p : Pointer) : Nat → Option Pointer
  | 0 => some p
  | k + 1 => (p.strides g k).bind (stride g)

/-- The cells have numbers below `n`, and the pointer goes from each of them to the next, from the
last one on to the first. -/
structure Follows (g : Grid) (p : Pointer) (number : Vec → Nat) (n : Nat) : Prop where
  number_lt : ∀ {c}, (g.cell c).isSome → number c < n
  number_inj : ∀ {c d}, (g.cell c).isSome → (g.cell d).isSome → number c = number d → c = d
  exists_next : ∀ {c}, (g.cell c).isSome →
    ∃ d, g.wrap p.bias (c + p.velocity) = some d ∧ number d = (number c + 1) % n

namespace Follows

variable {number : Vec → Nat} {n : Nat}

theorem strides (h : p.Follows g number n) (hp : (g.cell p.pos).isSome) (k : Nat) :
    ∃ pos, p.strides g k = some { p with pos } ∧ (g.cell pos).isSome ∧
      number pos = (number p.pos + k) % n := by
  induction k with
  | zero => exact ⟨p.pos, rfl, hp, (Nat.mod_eq_of_lt (h.number_lt hp)).symm⟩
  | succ k ih =>
    obtain ⟨pos, hk, hc, hn⟩ := ih
    obtain ⟨next, hw, hn'⟩ := h.exists_next hc
    refine ⟨next, ?_, Grid.cell_isSome_of_wrap hw, ?_⟩
    · rw [Pointer.strides, hk, Option.bind_some, stride, advance]
      dsimp only
      rw [hw]
      rfl
    · rw [hn', hn, Nat.mod_add_mod, Nat.add_assoc]

/-- So it passes each cell once in `n` steps. -/
theorem existsUnique_stride (h : p.Follows g number n) (hp : (g.cell p.pos).isSome) {c : Vec}
    (hc : (g.cell c).isSome) (m : Nat) :
    ∃! k, m ≤ k ∧ k < m + n ∧ (p.strides g k).map (·.pos) = some c := by
  have hiff : ∀ k, (p.strides g k).map (·.pos) = some c ↔ (number p.pos + k) % n = number c := by
    intro k
    obtain ⟨pos, hk, hpos, hn⟩ := h.strides hp k
    rw [hk, ← hn, Option.map_some, Option.some_inj]
    exact ⟨congrArg number, h.number_inj hpos hc⟩
  simp only [hiff]
  exact existsUnique_add_mod (h.number_lt hc) m

end Follows

/-- **The row-sheared pointer reads the page like text.** -/
theorem reads_in_order (hb : p.bias = ⟨0, 1⟩) (hv : p.velocity = .east)
    (hp : (g.cell p.pos).isSome) :
    (∀ pos c, g.cell pos = some c → g.cells[g.number pos]? = some (pos, c)) ∧
    (∀ k, ∃ pos, p.strides g k = some { p with pos } ∧ (g.cell pos).isSome ∧
      g.number pos = (g.number p.pos + k) % g.cells.length) ∧
    ∀ c, (g.cell c).isSome → ∀ m, ∃! k, m ≤ k ∧ k < m + g.cells.length ∧
      (p.strides g k).map (·.pos) = some c := by
  have hf : p.Follows g g.number g.cells.length := by
    refine ⟨Grid.number_lt, Grid.number_inj, fun hc => ?_⟩
    rw [hb, hv]
    exact Grid.wrap_east hc
  exact ⟨fun _ _ => Grid.getElem?_cells_number, hf.strides hp,
    fun _ hc => hf.existsUnique_stride hp hc⟩

end Pointer

/-- A page of rows of different lengths, of which the first and the third have no cells. -/
def Grid.ragged : Grid :=
  ⟨[[], ['ᛊ', '1'], [], ['ᚭ', 'ᛧ', ' ']], by decide⟩

/-- The pointer of `ragged` goes on from the second row in the fourth and from the fourth in the
second. -/
theorem Pointer.reads_ragged : ∃ p, Grid.ragged.pointers[0]? = some p ∧ p.bias = ⟨0, 1⟩ ∧
    p.velocity = .east ∧ (Grid.ragged.cell p.pos).isSome ∧
    p.strides .ragged 2 = some { p with pos := ⟨0, 3⟩ } ∧
    p.strides .ragged 5 = some p ∧
    ∃! k, 5 ≤ k ∧ k < 10 ∧ (p.strides .ragged k).map (·.pos) = some ⟨1, 3⟩ := by
  obtain ⟨-, hall, hunique⟩ := reads_in_order (g := .ragged)
    (p := ⟨0, ⟨0, 1⟩, ⟨0, 1⟩, 'ᛊ', .east, ⟨0, 1⟩, some 0⟩) rfl rfl rfl
  refine ⟨_, rfl, rfl, rfl, rfl, ?_, ?_, hunique ⟨1, 3⟩ rfl 5⟩
  · obtain ⟨pos, hk, hc, hn⟩ := hall 2
    obtain rfl : pos = ⟨0, 3⟩ := Grid.number_inj hc rfl hn
    exact hk
  · obtain ⟨pos, hk, hc, hn⟩ := hall 5
    obtain rfl : pos = ⟨0, 1⟩ := Grid.number_inj hc rfl hn
    exact hk

end RuneGrid
