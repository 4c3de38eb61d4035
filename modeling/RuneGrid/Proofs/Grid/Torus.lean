import Mathlib.Logic.Equiv.Defs
import RuneGrid.Proofs.Grid.Stranding

/-!
# The rectangular page as a torus

On a page whose rows all have the same length, leaving through an edge and coming in at the
opposite one is a translation: by the width and against the vertical shift, or by the height and
against the sideways shift.  `SamePlace g w bias p q` says that such translations lead from `p` to
`q`.

* `Beside.samePlace_fold`: next to the page, one application of the rule is a translation, whichever
  edge has been left.
* `Beside.samePlace_of_wrap`: hence so is `wrap`.
* `SamePlace.eq_of_cells`: no two cells are the same place.

A step goes from `c` to the cell that is the same place as `c + v`, so the step back from there goes
to the cell that is the same place as `c`, which is `c` (`wrap_back`).  None of the corner cases has
to be looked at again.  `steps_reversible` draws the conclusions.
-/

namespace RuneGrid

/-! ### Rectangular pages -/

/-- Of two numbers in the same range, one is no multiple of the range away from the other. -/
theorem eq_zero_of_add_mul {i j n b : Int} (hi : 0 ≤ i ∧ i < n) (hj : 0 ≤ j ∧ j < n)
    (h : j = i + b * n) : b = 0 := by
  have hn : n ≠ 0 := by omega
  have hdiv : j / n = i / n + b := by
    rw [h, Int.add_mul_ediv_right i b hn]
  rw [Int.ediv_eq_zero_of_lt hi.1 hi.2, Int.ediv_eq_zero_of_lt hj.1 hj.2] at hdiv
  omega

namespace Grid

variable {g : Grid} {w : Nat} {bias p q r c d v : Vec}

/-- All rows have `w` cells, and that is at least one. -/
structure IsRectangular (g : Grid) (w : Nat) : Prop where
  pos : 0 < w
  length_eq : ∀ row ∈ g.rows, row.length = w

theorem IsRectangular.rowLength_row (hr : g.IsRectangular w) (p : Vec) :
    g.rowLength (g.row p) = w := by
  have hlt : g.row p < g.rows.length := g.row_lt p
  rw [rowLength, List.getElem?_eq_getElem hlt]
  exact hr.length_eq _ (List.getElem_mem hlt)

theorem IsRectangular.cell_isSome_iff (hr : g.IsRectangular w) :
    (g.cell p).isSome ↔ (0 ≤ p.x ∧ p.x < w) ∧ 0 ≤ p.y ∧ p.y < g.height := by
  rw [isSome_cell_iff, StaysInRow, hr.rowLength_row]

/-- Some number of ways around the page, across and down, leads from `p` to `q`. -/
def SamePlace (g : Grid) (w : Nat) (bias p q : Vec) : Prop :=
  ∃ a b : Int, q.x = p.x + a * w - b * bias.x ∧ q.y = p.y + b * g.height - a * bias.y

namespace SamePlace

theorem refl (p : Vec) : g.SamePlace w bias p p :=
  ⟨0, 0, by simp, by simp⟩

theorem trans (hp : g.SamePlace w bias p q) (hq : g.SamePlace w bias q r) :
    g.SamePlace w bias p r := by
  obtain ⟨a, b, hx, hy⟩ := hp
  obtain ⟨a', b', hx', hy'⟩ := hq
  refine ⟨a + a', b + b', ?_, ?_⟩
  · rw [hx', hx, Int.add_mul, Int.add_mul]
    omega
  · rw [hy', hy, Int.add_mul, Int.add_mul]
    omega

/-- A step goes from the same place to the same place. -/
theorem sub (h : g.SamePlace w bias p q) (v : Vec) : g.SamePlace w bias (p - v) (q - v) := by
  obtain ⟨a, b, hx, hy⟩ := h
  refine ⟨a, b, ?_, ?_⟩
  · rw [Vec.sub_x, Vec.sub_x, hx]
    omega
  · rw [Vec.sub_y, Vec.sub_y, hy]
    omega

/-- **No two cells are the same place.** -/
theorem eq_of_cells (h : g.SamePlace w bias p q) (hr : g.IsRectangular w)
    (hb : bias.x = 0 ∨ bias.y = 0) (hp : (g.cell p).isSome) (hq : (g.cell q).isSome) : p = q := by
  obtain ⟨a, b, hx, hy⟩ := h
  obtain ⟨hpx, hpy⟩ := hr.cell_isSome_iff.1 hp
  obtain ⟨hqx, hqy⟩ := hr.cell_isSome_iff.1 hq
  -- the coordinate without a shift tells that there is no way around, and then so does the other
  rcases hb with hb | hb
  · rw [hb, Int.mul_zero, Int.sub_zero] at hx
    have ha : a = 0 := eq_zero_of_add_mul hpx hqx hx
    rw [ha, Int.zero_mul, Int.sub_zero] at hy
    have hb : b = 0 := eq_zero_of_add_mul hpy hqy hy
    ext
    · rw [hx, ha, Int.zero_mul, Int.add_zero]
    · rw [hy, hb, Int.zero_mul, Int.add_zero]
  · rw [hb, Int.mul_zero, Int.sub_zero] at hy
    have hb : b = 0 := eq_zero_of_add_mul hpy hqy hy
    rw [hb, Int.zero_mul, Int.sub_zero] at hx
    have ha : a = 0 := eq_zero_of_add_mul hpx hqx hx
    ext
    · rw [hx, ha, Int.zero_mul, Int.add_zero]
    · rw [hy, hb, Int.zero_mul, Int.add_zero]

end SamePlace

/-! ### Next to the page -/

/-- On the page, or off it by one at one of its edges. -/
structure Beside (g : Grid) (w : Nat) (p : Vec) : Prop where
  x_bounds : -1 ≤ p.x ∧ p.x ≤ w
  y_bounds : -1 ≤ p.y ∧ p.y ≤ g.height
  one_edge : (0 ≤ p.x ∧ p.x < w) ∨ (0 ≤ p.y ∧ p.y < g.height)

/-- A step from a cell goes no farther. -/
theorem beside_of_step (hr : g.IsRectangular w) (hc : (g.cell c).isSome) (hv : v.IsCardinal) :
    g.Beside w (c + v) := by
  obtain ⟨⟨hx0, hx1⟩, hy0, hy1⟩ := hr.cell_isSome_iff.1 hc
  have hcases := hv.horizontal_or_vertical
  refine ⟨?_, ?_, ?_⟩
  · rw [Vec.add_x]
    omega
  · rw [Vec.add_y]
    omega
  · rw [Vec.add_x, Vec.add_y]
    omega

namespace Beside

/-- A position that leaves through an end of its row is in one of the rows. -/
theorem row_eq (h : g.Beside w p) (he : ¬ (0 ≤ p.x ∧ p.x < w)) : (g.row p : Int) = p.y := by
  obtain ⟨h0, h1⟩ := h.one_edge.resolve_left he
  exact row_of_lt h0 h1

/-- **Next to the page, the rule is a translation**, and it does not lead away. -/
theorem samePlace_fold (hr : g.IsRectangular w) (hb : bias.IsBias) (h : g.Beside w p) :
    g.Beside w (g.fold bias p) ∧ g.SamePlace w bias p (g.fold bias p) := by
  have hbias := hb.bounds
  have hx := h.x_bounds
  have hy := h.y_bounds
  have hw := hr.pos
  have hlt := Int.ofNat_lt.2 (g.row_lt p)
  have hlen := hr.rowLength_row p
  rcases g.exit_cases p with he | he | he
  · rw [he.fold_eq]
    rw [ExitsRight, hlen] at he
    have hrow := h.row_eq (by omega)
    refine ⟨⟨?_, ?_, ?_⟩, -1, 0, ?_, ?_⟩ <;> dsimp only <;> omega
  · rw [he.fold_eq, hlen]
    unfold ExitsLeft at he
    have hrow := h.row_eq (by omega)
    refine ⟨⟨?_, ?_, ?_⟩, 1, 0, ?_, ?_⟩ <;> dsimp only <;> omega
  · rw [he.fold_eq]
    obtain ⟨he0, he1⟩ := he
    rw [hlen] at he1
    have hrow := g.foldRow_eq p
    -- the number of ways around is decided by the edge, top or bottom, that has been crossed
    rcases lt_or_ge p.y 0 with hneg | h0
    · rw [foldRow_of_neg hneg] at hrow
      rw [edgeShift_of_neg hneg]
      refine ⟨⟨?_, ?_, ?_⟩, 0, 1, ?_, ?_⟩ <;> dsimp only <;> omega
    · rcases lt_or_ge p.y g.height with h1 | hge
      · rw [foldRow_of_lt h0 h1] at hrow
        rw [edgeShift_of_lt h0 h1]
        refine ⟨⟨?_, ?_, ?_⟩, 0, 0, ?_, ?_⟩ <;> dsimp only <;> omega
      · rw [foldRow_of_height_le hge] at hrow
        rw [edgeShift_of_height_le hge]
        refine ⟨⟨?_, ?_, ?_⟩, 0, -1, ?_, ?_⟩ <;> dsimp only <;> omega

theorem samePlace_orbit (hr : g.IsRectangular w) (hb : bias.IsBias) (h : g.Beside w p) (n : Nat) :
    g.Beside w (g.orbit bias p n) ∧ g.SamePlace w bias p (g.orbit bias p n) := by
  induction n with
  | zero => exact ⟨h, .refl p⟩
  | succ n ih =>
    obtain ⟨hn, hs⟩ := ih
    obtain ⟨hn', hs'⟩ := hn.samePlace_fold hr hb
    rw [orbit_succ]
    exact ⟨hn', hs.trans hs'⟩

/-- **Next to the page, `wrap` finds the same place.** -/
theorem samePlace_of_wrap (hr : g.IsRectangular w) (hb : bias.IsBias) (h : g.Beside w p)
    (hw : g.wrap bias p = some q) : g.SamePlace w bias p q := by
  obtain ⟨n, -, rfl⟩ := wrap_eq_some_iff.1 hw
  exact (h.samePlace_orbit hr hb n).2

end Beside

/-! ### Steps and steps back -/

/-- On a rectangular page every step lands. -/
theorem exists_wrap (hr : g.IsRectangular w) (hb : bias.IsBias) (hv : v.IsCardinal)
    (hc : (g.cell c).isSome) : ∃ d, g.wrap bias (c + v) = some d := by
  refine Option.ne_none_iff_exists'.1 fun hn => ?_
  obtain ⟨-, h0⟩ := (wrap_eq_none_iff_of_step hc hv hb.sheared_or_flat).1 hn
  rw [hr.rowLength_row] at h0
  exact absurd h0 hr.pos.ne'

/-- **The step back undoes the step.** -/
theorem wrap_back (hr : g.IsRectangular w) (hb : bias.IsBias) (hv : v.IsCardinal)
    (hc : (g.cell c).isSome) (hd : g.wrap bias (c + v) = some d) :
    g.wrap bias (d - v) = some c := by
  have hcell : (g.cell d).isSome := cell_isSome_of_wrap hd
  obtain ⟨e, he⟩ := exists_wrap hr hb hv.neg hcell
  have hforth : g.SamePlace w bias (c + v) d :=
    (beside_of_step hr hc hv).samePlace_of_wrap hr hb hd
  have hback : g.SamePlace w bias (d - v) e :=
    (beside_of_step hr hcell hv.neg).samePlace_of_wrap hr hb he
  have hsame : g.SamePlace w bias c e := by
    have hsub := hforth.sub v
    rw [Vec.add_sub_cancel] at hsub
    exact hsub.trans hback
  rw [Vec.sub_eq_add_neg, he, hsame.eq_of_cells hr hb.flat hc (cell_isSome_of_wrap he)]

/-- **A step permutes the cells.** -/
theorem exists_perm_step (hr : g.IsRectangular w) (hb : bias.IsBias) (hv : v.IsCardinal) :
    ∃ π : Equiv.Perm {c : Vec // (g.cell c).isSome}, ∀ c, g.wrap bias (c.1 + v) = some (π c).1 := by
  have hstep : ∀ v : Vec, v.IsCardinal → ∀ c : {c : Vec // (g.cell c).isSome},
      ∃ d : {c : Vec // (g.cell c).isSome}, g.wrap bias (c.1 + v) = some d.1 := by
    intro v hv c
    obtain ⟨d, hd⟩ := exists_wrap hr hb hv c.2
    exact ⟨⟨d, cell_isSome_of_wrap hd⟩, hd⟩
  choose forth hforth using hstep v hv
  choose back hback using hstep (-v) hv.neg
  refine ⟨⟨forth, back, fun c => ?_, fun d => ?_⟩, hforth⟩
  · have h := wrap_back hr hb hv c.2 (hforth c)
    rw [Vec.sub_eq_add_neg, hback] at h
    exact Subtype.ext (Option.some.inj h)
  · have h := wrap_back hr hb hv.neg d.2 (hback d)
    rw [Vec.sub_neg_eq_add, hforth] at h
    exact Subtype.ext (Option.some.inj h)

end Grid

/-! ### There and back -/

namespace Pointer

variable {g : Grid} {w : Nat} {p q : Pointer} {k : Nat}

theorem strides_succ' (g : Grid) (p : Pointer) (k : Nat) :
    p.strides g (k + 1) = (p.stride g).bind fun q => q.strides g k := by
  induction k with
  | zero =>
    rw [strides, strides, Option.bind_some]
    cases p.stride g <;> rfl
  | succ k ih =>
    rw [strides, ih, Option.bind_assoc]
    rfl

/-- What the steps of a pointer need and keep. -/
structure Strolls (g : Grid) (p : Pointer) : Prop where
  bias : p.bias.IsBias
  cardinal : p.velocity.IsCardinal
  cell : (g.cell p.pos).isSome

/-- One step, and one step back. -/
theorem Strolls.stride_back (hr : g.IsRectangular w) (h : p.Strolls g) :
    ∃ q, p.stride g = some q ∧ q.Strolls g ∧ (q.turn .half).stride g = some (p.turn .half) := by
  obtain ⟨pos, hpos⟩ := Grid.exists_wrap hr h.bias h.cardinal h.cell
  have hback := Grid.wrap_back hr h.bias h.cardinal h.cell hpos
  refine ⟨{ p with pos }, ?_, ⟨h.bias, h.cardinal, Grid.cell_isSome_of_wrap hpos⟩, ?_⟩
  · have hstep : g.wrap p.bias p.advance.pos = some pos := hpos
    rw [stride, hstep]
    rfl
  · have hstep : g.wrap p.bias (({ p with pos } : Pointer).turn .half).advance.pos = some p.pos :=
      hback
    rw [stride]
    show (g.wrap p.bias _).map _ = _
    rw [hstep]
    rfl

/-- **There and back**: with a half turn in between, as many steps lead back. -/
theorem Strolls.strides_back (hr : g.IsRectangular w) (h : p.Strolls g) (k : Nat) :
    ∃ q, p.strides g k = some q ∧ q.Strolls g ∧
      (q.turn .half).strides g k = some (p.turn .half) := by
  induction k with
  | zero => exact ⟨p, rfl, h, rfl⟩
  | succ k ih =>
    obtain ⟨q, hq, hs, hqp⟩ := ih
    obtain ⟨r, hstep, hs', hrq⟩ := hs.stride_back hr
    refine ⟨r, ?_, hs', ?_⟩
    · rw [strides, hq, Option.bind_some, hstep]
    · rw [strides_succ', hrq, Option.bind_some, hqp]

end Pointer

/-- **Steps on a rectangular page can be taken back.**  Whatever the bias and the direction, a step
leads from each cell to a cell, and the opposite step from there leads back.  So the step permutes
the cells, and a pointer that takes any number of steps, turns around and takes as many again is
where it was, facing the other way. -/
theorem Grid.steps_reversible {g : Grid} {w : Nat} {bias v : Vec} (hr : g.IsRectangular w)
    (hb : bias.IsBias) (hv : v.IsCardinal) :
    (∀ c, (g.cell c).isSome → ∃ d, (g.cell d).isSome ∧ g.wrap bias (c + v) = some d ∧
      g.wrap bias (d - v) = some c) ∧
    (∃ π : Equiv.Perm {c : Vec // (g.cell c).isSome},
      ∀ c, g.wrap bias (c.1 + v) = some (π c).1) ∧
    ∀ p : Pointer, p.bias = bias → p.velocity = v → (g.cell p.pos).isSome →
      ∀ k, ∃ q, p.strides g k = some q ∧ (q.turn .half).strides g k = some (p.turn .half) := by
  refine ⟨fun c hc => ?_, exists_perm_step hr hb hv, ?_⟩
  · obtain ⟨d, hd⟩ := exists_wrap hr hb hv hc
    exact ⟨d, cell_isSome_of_wrap hd, hd, wrap_back hr hb hv hc hd⟩
  · rintro p rfl rfl hc k
    have hp : p.Strolls g := ⟨hb, hv, hc⟩
    obtain ⟨q, hq, -, hback⟩ := hp.strides_back hr k
    exact ⟨q, hq, hback⟩

/-- A page of two columns and three rows, with a pointer that goes on in the next column. -/
def Grid.sheet : Grid :=
  ⟨[['1', ' '], ['ᛁ', '2'], [' ', 'ᛋ']], by decide⟩

/-- From the last cell of `sheet` the pointer goes on in the first one. Four steps, and four steps
back, lead to where it was. -/
theorem Grid.sheet_reversible : sheet.IsRectangular 2 ∧ (⟨1, 0⟩ : Vec).IsBias ∧
    Vec.south.IsCardinal ∧ sheet.wrap ⟨1, 0⟩ ⟨1, 3⟩ = some ⟨0, 0⟩ ∧
    sheet.wrap ⟨1, 0⟩ ⟨0, -1⟩ = some ⟨1, 2⟩ ∧
    ∃ p q, sheet.pointers[0]? = some p ∧ p.strides sheet 4 = some q ∧ q.pos = ⟨1, 0⟩ ∧
      (q.turn .half).strides sheet 4 = some (p.turn .half) := by
  have hr : sheet.IsRectangular 2 := ⟨by decide, by decide⟩
  have hb : (⟨1, 0⟩ : Vec).IsBias := ⟨'ᛋ', _, rfl, rfl⟩
  have hv : Vec.south.IsCardinal := Or.inr (Or.inr (Or.inr rfl))
  obtain ⟨hall, -, hback⟩ := steps_reversible hr hb hv
  obtain ⟨d, -, hd, hdc⟩ := hall ⟨1, 2⟩ rfl
  obtain rfl : ⟨0, 0⟩ = d := Option.some.inj hd
  obtain ⟨q, hq, hqp⟩ := hback ⟨0, ⟨1, 2⟩, ⟨1, 2⟩, 'ᛋ', .south, ⟨1, 0⟩, some 0⟩ rfl rfl rfl 4
  refine ⟨hr, hb, hv, hd, hdc, _, q, rfl, hq, ?_, hqp⟩
  cases hq
  rfl

end RuneGrid
