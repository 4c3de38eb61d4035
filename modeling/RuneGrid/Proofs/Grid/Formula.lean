import RuneGrid.Proofs.Grid.Stranding

/-!
# A step in closed form

`Grid.wrap` applies its rule again and again.  After a step from a cell the outcome can be written
down at once, on pages with rows of any length.

* Without a vertical shift the pointer stays in the row in which it continues, and comes in at the
  other end of it (`plainLanding`).  A sideways shift turns it by one column within that row
  (`columnLanding`).
* The row-sheared pointer that runs off the right end goes on at the front of the next row that has
  cells (`nextRow`, `wrap_below`).  One that runs off the left end goes to the column above its last
  cell if there is such a cell, and otherwise it comes back to the front of its own row
  (`rowLanding`).

`wrap_eq_landing` states it for all three biases.
-/

namespace RuneGrid

namespace Grid

variable {g : Grid} {bias c p v : Vec} {r : Nat}

/-! ### The formulas -/

/-- Where a pointer without a bias that comes to `p` lands: in the row of `p`, and at the other end
of it if it has run off one. -/
def plainLanding (g : Grid) (p : Vec) : Vec :=
  if p.x < 0 then ⟨g.rowLength (g.row p) - 1, g.row p⟩
  else if p.x < g.rowLength (g.row p) then ⟨p.x, g.row p⟩
  else ⟨0, g.row p⟩

/-- Where a column-sheared pointer that comes to `p` lands: the same, but where the bottom or the top
has been left above or below a cell, it is turned by one column. -/
def columnLanding (g : Grid) (p : Vec) : Vec :=
  if g.height ≤ p.y ∧ p.x < g.rowLength 0 then ⟨(p.x + 1) % g.rowLength 0, 0⟩
  else if p.y < 0 ∧ p.x < g.rowLength (g.height - 1) then
    ⟨(p.x - 1) % g.rowLength (g.height - 1), g.height - 1⟩
  else g.plainLanding p

/-- The next row with cells below the row `r`, from the last row on to the first; this can be `r`
again. -/
def nextRow (g : Grid) (r : Nat) : Nat :=
  (((List.range g.height).map fun k => (r + 1 + k) % g.height).find?
    fun q => g.rowLength q ≠ 0).getD r

/-- The row above the row `r`, from the first row on to the last. -/
def rowAbove (g : Grid) (r : Nat) : Nat :=
  (r + (g.height - 1)) % g.height

/-- Where a row-sheared pointer that comes to `p` lands. -/
def rowLanding (g : Grid) (p : Vec) : Vec :=
  let r := g.row p
  if p.x < 0 then
    if g.rowLength r ≤ g.rowLength (g.rowAbove r) then ⟨g.rowLength r - 1, g.rowAbove r⟩
    else ⟨0, r⟩
  else if p.x < g.rowLength r then ⟨p.x, r⟩
  else ⟨0, g.nextRow r⟩

/-! ### Without a vertical shift -/

/-- Beyond an end of a row with cells, a pointer without a vertical shift comes in at the other. -/
theorem wrap_of_exit (hb : bias.y = 0) (hr : g.rowLength (g.row p) ≠ 0) (he : ¬ g.StaysInRow p) :
    g.wrap bias p = some (g.plainLanding p) := by
  have hcell := cell_fold_of_flat hb hr he
  rw [← wrap_fold, wrap_of_cell hcell, Option.some_inj, plainLanding]
  rcases g.exit_cases p with h | h | h
  · have h1 : (g.rowLength (g.row p) : Int) ≤ p.x := h
    rw [h.fold_eq, hb, if_neg (by omega), if_neg (by omega), Int.add_zero]
  · have h1 : p.x < 0 := h
    rw [h.fold_eq, hb, if_pos h1, Int.sub_zero]
  · exact absurd h he

theorem plainLanding_of_stays (h : g.StaysInRow p) : g.plainLanding p = ⟨p.x, g.row p⟩ := by
  rw [plainLanding, if_neg (not_lt.2 h.1), if_pos h.2]

theorem wrap_zero (hr : g.rowLength (g.row p) ≠ 0) :
    g.wrap .zero p = some (g.plainLanding p) := by
  by_cases h : g.StaysInRow p
  · rw [wrap_of_stays rfl h, plainLanding_of_stays h]
  · exact wrap_of_exit rfl hr h

/-- One column beyond the last one is the first, and one before the first one is the last. -/
theorem plainLanding_eq_mod {x : Int} (hr : r < g.height) (h0 : -1 ≤ x)
    (h1 : x ≤ g.rowLength r) (hlen : g.rowLength r ≠ 0) :
    g.plainLanding ⟨x, r⟩ = ⟨x % g.rowLength r, r⟩ := by
  rw [plainLanding, row_natCast x hr]
  by_cases hneg : x < 0
  · obtain rfl : x = -1 := by omega
    rw [if_pos hneg, Int.emod_eq_add_self_emod, Int.emod_eq_of_lt (by omega) (by omega),
      Int.add_comm, Int.sub_eq_add_neg]
  · rw [if_neg hneg]
    by_cases hlt : x < g.rowLength r
    · rw [if_pos hlt, Int.emod_eq_of_lt (by omega) hlt]
    · obtain rfl : x = g.rowLength r := by omega
      rw [if_neg hlt, Int.emod_self]

/-- Across the bottom or the top, the sideways shift turns a row with cells by one column. -/
theorem wrap_of_turn {s : Int} (hr : g.row p = r) (h : g.StaysInRow p)
    (hs : g.edgeShift ⟨1, 0⟩ p.y = s) (hone : s = 1 ∨ s = -1) :
    g.wrap ⟨1, 0⟩ p = some ⟨(p.x + s) % g.rowLength r, r⟩ := by
  have hlt : r < g.height := hr ▸ g.row_lt p
  have hp := h
  rw [StaysInRow, hr] at hp
  have hlen : g.rowLength r ≠ 0 := by omega
  rw [← wrap_fold, h.fold_eq, hs, hr, ← plainLanding_eq_mod hlt (by omega) (by omega) hlen]
  by_cases hstay : g.StaysInRow ⟨p.x + s, r⟩
  · have hcell := hstay
    rw [StaysInRow, row_natCast _ hlt] at hcell
    rw [wrap_of_cell (cell_isSome_of_column hlt hcell.1 hcell.2), plainLanding_of_stays hstay,
      row_natCast _ hlt]
  · refine wrap_of_exit rfl ?_ hstay
    rw [row_natCast _ hlt]
    exact hlen

theorem wrap_column_of_stays (h : g.StaysInRow p) :
    g.wrap ⟨1, 0⟩ p = some (g.columnLanding p) := by
  have hx := h.2
  rw [columnLanding]
  by_cases hbottom : g.height ≤ p.y
  · have hrow := row_of_height_le hbottom
    rw [hrow] at hx
    rw [if_pos ⟨hbottom, hx⟩,
      wrap_of_turn hrow h (edgeShift_of_height_le hbottom) (Or.inl rfl)]
    rfl
  · rw [if_neg (fun hc => hbottom hc.1)]
    by_cases htop : p.y < 0
    · have hpos := g.height_pos
      have hrow := g.row_of_neg htop
      rw [hrow] at hx
      rw [if_pos ⟨htop, hx⟩, wrap_of_turn hrow h (edgeShift_of_neg htop) (Or.inr rfl)]
      congr 2
      omega
    · have hcell : (g.cell p).isSome := isSome_cell_iff.2 ⟨h, by omega, by omega⟩
      rw [if_neg (fun hc => htop hc.1), plainLanding_of_stays h, wrap_of_cell hcell,
        row_of_lt (by omega) (by omega)]

/-- Off an end of the row it makes no difference whether an edge of the page has been left as well. -/
theorem columnLanding_of_exit (h0 : p.y < 0 ∨ g.height ≤ p.y → 0 ≤ p.x) (h : ¬ g.StaysInRow p) :
    g.columnLanding p = g.plainLanding p := by
  rw [columnLanding, if_neg, if_neg]
  · rintro ⟨htop, hx⟩
    refine h ⟨h0 (Or.inl htop), ?_⟩
    rw [g.row_of_neg htop]
    exact hx
  · rintro ⟨hbottom, hx⟩
    refine h ⟨h0 (Or.inr hbottom), ?_⟩
    rw [row_of_height_le hbottom]
    exact hx

theorem wrap_column (h0 : p.y < 0 ∨ g.height ≤ p.y → 0 ≤ p.x) (hr : g.rowLength (g.row p) ≠ 0) :
    g.wrap ⟨1, 0⟩ p = some (g.columnLanding p) := by
  by_cases h : g.StaysInRow p
  · exact wrap_column_of_stays h
  · rw [columnLanding_of_exit h0 h]
    exact wrap_of_exit rfl hr h

/-! ### With the bias of the row-sheared pointer -/

/-- Below the last row is the first. -/
theorem wrap_left_edge_mod (hr : r ≤ g.height) :
    g.wrap ⟨0, 1⟩ ⟨0, r⟩ = g.wrap ⟨0, 1⟩ ⟨0, (r % g.height : Nat)⟩ := by
  by_cases h : r = g.height
  · rw [h, Nat.mod_self]
    exact g.wrap_left_edge_height
  · rw [Nat.mod_eq_of_lt (by omega)]

/-- At the left edge, the pointer passes over rows without cells. -/
theorem wrap_left_edge_of_rows {k : Nat} (hr : r ≤ g.height)
    (h : ∀ j < k, g.rowLength ((r + j) % g.height) = 0) :
    g.wrap ⟨0, 1⟩ ⟨0, r⟩ = g.wrap ⟨0, 1⟩ ⟨0, ((r + k) % g.height : Nat)⟩ := by
  induction k with
  | zero => exact wrap_left_edge_mod hr
  | succ k ih =>
    have hlt : (r + k) % g.height < g.height := Nat.mod_lt _ g.height_pos
    calc g.wrap ⟨0, 1⟩ ⟨0, r⟩
      _ = g.wrap ⟨0, 1⟩ ⟨0, ((r + k) % g.height : Nat)⟩ := ih fun j hj => h j (by omega)
      _ = g.wrap ⟨0, 1⟩ ⟨0, ((r + k) % g.height + 1 : Nat)⟩ :=
        wrap_left_edge_of_empty hlt (h k (by omega))
      _ = g.wrap ⟨0, 1⟩ ⟨0, (((r + k) % g.height + 1) % g.height : Nat)⟩ := wrap_left_edge_mod hlt
      _ = g.wrap ⟨0, 1⟩ ⟨0, ((r + (k + 1)) % g.height : Nat)⟩ := by
        rw [Nat.mod_add_mod, Nat.add_assoc]

/-- **Below a row, the row-sheared pointer goes on at the front of the next row with cells.** -/
theorem wrap_below (hc : (g.cell c).isSome) (hr : r < g.height) :
    g.wrap ⟨0, 1⟩ ⟨0, (r + 1 : Nat)⟩ = some ⟨0, g.nextRow r⟩ := by
  obtain ⟨⟨h0, h1⟩, -⟩ := isSome_cell_iff.1 hc
  have hrow := g.row_lt c
  obtain ⟨q, hq⟩ : ∃ q, (((List.range g.height).map fun k => (r + 1 + k) % g.height).find?
      fun q => g.rowLength q ≠ 0) = some q := by
    rw [← Option.isSome_iff_exists, List.find?_isSome]
    -- the row of `c` is one of those that are looked at
    refine ⟨g.row c, List.mem_map.2 ⟨(g.row c + (g.height - (r + 1))) % g.height, ?_, ?_⟩, ?_⟩
    · exact List.mem_range.2 (Nat.mod_lt _ g.height_pos)
    · rw [Nat.add_mod_mod, show r + 1 + (g.row c + (g.height - (r + 1))) = g.row c + g.height by omega,
        Nat.add_mod_right, Nat.mod_eq_of_lt hrow]
    · rw [decide_eq_true_eq]
      omega
  have hnext : g.nextRow r = q := by
    rw [nextRow, hq]
    rfl
  rw [List.find?_map, Option.map_eq_some_iff] at hq
  obtain ⟨k, hk, rfl⟩ := hq
  rw [List.find?_range_eq_some] at hk
  obtain ⟨hfull, -, hempty⟩ := hk
  have hlt : (r + 1 + k) % g.height < g.height := Nat.mod_lt _ g.height_pos
  rw [hnext, wrap_left_edge_of_rows (k := k) hr, wrap_of_cell]
  · exact cell_left_edge hlt (by simpa using hfull)
  · intro j hj
    simpa using hempty j hj

/-- Off the right end of its row. -/
theorem wrap_of_exitsRight (hc : (g.cell c).isSome) (h : g.ExitsRight p) :
    g.wrap ⟨0, 1⟩ p = some ⟨0, g.nextRow (g.row p)⟩ := by
  rw [← wrap_fold, h.fold_eq, ← wrap_below hc (g.row_lt p)]
  rfl

theorem row_above (x : Int) (hr : r < g.height) : g.row ⟨x, (r : Int) - 1⟩ = g.rowAbove r := by
  rw [rowAbove]
  by_cases h : r = 0
  · subst h
    rw [g.row_of_neg (by dsimp only; omega), Nat.zero_add, Nat.mod_eq_of_lt (by omega)]
  · have hrow : (g.row ⟨x, (r : Int) - 1⟩ : Int) = r - 1 :=
      row_of_lt (p := ⟨x, (r : Int) - 1⟩) (by dsimp only; omega) (by dsimp only; omega)
    rw [show r + (g.height - 1) = r - 1 + g.height by omega, Nat.add_mod_right,
      Nat.mod_eq_of_lt (by omega)]
    omega

/-- Off the left end of a row with cells. -/
theorem wrap_of_exitsLeft (hr : g.rowLength (g.row p) ≠ 0) (h : ExitsLeft p) :
    g.wrap ⟨0, 1⟩ p = some (g.rowLanding p) := by
  have hlt := g.row_lt p
  have habove := row_above (g.rowLength (g.row p) - 1 : Int) hlt
  have hneg : p.x < 0 := h
  rw [← wrap_fold, h.fold_eq, rowLanding, if_pos hneg]
  by_cases hle : g.rowLength (g.row p) ≤ g.rowLength (g.rowAbove (g.row p))
  · rw [if_pos hle, wrap_of_stays rfl, habove]
    rw [StaysInRow, habove]
    dsimp only
    omega
  · -- the row above is too short, and leads back down
    have he : g.ExitsRight ⟨(g.rowLength (g.row p) - 1 : Int), (g.row p : Int) - 1⟩ := by
      rw [ExitsRight, habove]
      dsimp only
      omega
    have hback : (g.rowAbove (g.row p) + 1) % g.height = g.row p := by
      have hpos := g.height_pos
      rw [rowAbove, Nat.mod_add_mod, show g.row p + (g.height - 1) + 1 = g.row p + g.height by omega,
        Nat.add_mod_right, Nat.mod_eq_of_lt hlt]
    have hle' : g.rowAbove (g.row p) < g.height := Nat.mod_lt _ g.height_pos
    rw [if_neg hle, ← wrap_fold, he.fold_eq, habove]
    show g.wrap ⟨0, 1⟩ ⟨0, (g.rowAbove (g.row p) + 1 : Nat)⟩ = _
    rw [wrap_left_edge_mod hle', hback, wrap_of_cell (cell_left_edge hlt hr)]

/-! ### A step from a cell -/

/-- **A step in closed form.**  After a step from a cell, a pointer without a bias and the
column-sheared pointer do not land if the row in which they continue has no cells, and otherwise
they land in this row.  The row-sheared pointer always lands. -/
theorem wrap_eq_landing (hc : (g.cell c).isSome) (hv : v.IsCardinal) :
    (g.wrap .zero (c + v) =
      if g.rowLength (g.row (c + v)) = 0 then none else some (g.plainLanding (c + v))) ∧
    (g.wrap ⟨1, 0⟩ (c + v) =
      if g.rowLength (g.row (c + v)) = 0 then none else some (g.columnLanding (c + v))) ∧
    g.wrap ⟨0, 1⟩ (c + v) = some (g.rowLanding (c + v)) := by
  obtain ⟨⟨h0, h1⟩, hy0, hy1⟩ := isSome_cell_iff.1 hc
  have hcases := hv.horizontal_or_vertical
  have hx : (c + v).x = c.x + v.x := rfl
  have hy : (c + v).y = c.y + v.y := rfl
  refine ⟨?_, ?_, ?_⟩
  · by_cases hr : g.rowLength (g.row (c + v)) = 0
    · rw [if_pos hr, wrap_eq_none_iff_of_flat rfl]
      exact hr
    · rw [if_neg hr, wrap_zero hr]
  · by_cases hr : g.rowLength (g.row (c + v)) = 0
    · rw [if_pos hr, wrap_eq_none_iff_of_flat rfl]
      exact hr
    · rw [if_neg hr, wrap_column _ hr]
      intro hout
      omega
  · rcases g.exit_cases (c + v) with he | he | he
    · have hge : (g.rowLength (g.row (c + v)) : Int) ≤ (c + v).x := he
      rw [wrap_of_exitsRight hc he, rowLanding, if_neg (by omega), if_neg (by omega)]
    · refine wrap_of_exitsLeft ?_ he
      have hleft : (c + v).x < 0 := he
      have hflat : v.y = 0 := by omega
      exact rowLength_row_of_horizontal hc hflat
    · rw [wrap_of_stays rfl he, rowLanding, if_neg (not_lt.2 he.1), if_pos he.2]

/-- A page whose rows get shorter and longer again. -/
def notched : Grid :=
  ⟨[['1', '2'], ['ᛋ'], ['3', '4', '5']], by decide⟩

/-- On `ragged`, a step off the end of the page leads past a row without cells, and a step off the
front of the second row comes back, as there is nothing above.  On `notched`, a column-sheared
pointer that leaves through the top is turned by one column, also off the front of the last row; one
that leaves through the bottom beside the first row is not. -/
theorem steps_on_ragged_and_notched :
    (ragged.cell ⟨2, 3⟩).isSome ∧ Vec.east.IsCardinal ∧
    ragged.wrap ⟨0, 1⟩ (⟨2, 3⟩ + .east) = some ⟨0, 1⟩ ∧
    ragged.wrap .zero (⟨2, 3⟩ + .north) = none ∧
    ragged.wrap ⟨0, 1⟩ (⟨0, 1⟩ + .west) = some ⟨0, 1⟩ ∧
    notched.wrap ⟨1, 0⟩ (⟨0, 0⟩ + .north) = some ⟨2, 2⟩ ∧
    notched.wrap ⟨1, 0⟩ (⟨1, 2⟩ + .south) = some ⟨0, 0⟩ ∧
    notched.wrap ⟨1, 0⟩ (⟨2, 2⟩ + .south) = some ⟨0, 0⟩ := by
  have hnorth : Vec.north.IsCardinal := Or.inr (Or.inr (Or.inl rfl))
  have hsouth : Vec.south.IsCardinal := Or.inr (Or.inr (Or.inr rfl))
  obtain ⟨-, -, heast⟩ := wrap_eq_landing (g := ragged) (c := ⟨2, 3⟩) (by decide) .east
  obtain ⟨hup, -, -⟩ := wrap_eq_landing (g := ragged) (c := ⟨2, 3⟩) (by decide) hnorth
  obtain ⟨-, -, hwest⟩ := wrap_eq_landing (g := ragged) (c := ⟨0, 1⟩) (by decide) .west
  obtain ⟨-, htop, -⟩ := wrap_eq_landing (g := notched) (c := ⟨0, 0⟩) (by decide) hnorth
  obtain ⟨-, hturned, -⟩ := wrap_eq_landing (g := notched) (c := ⟨1, 2⟩) (by decide) hsouth
  obtain ⟨-, hbeside, -⟩ := wrap_eq_landing (g := notched) (c := ⟨2, 2⟩) (by decide) hsouth
  refine ⟨by decide, .east, heast.trans ?_, hup.trans ?_, hwest.trans ?_, htop.trans ?_,
    hturned.trans ?_, hbeside.trans ?_⟩
  all_goals decide

end Grid

end RuneGrid
