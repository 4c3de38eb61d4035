import Mathlib.Data.Finset.Card
import Mathlib.Data.Nat.Find
import Mathlib.Logic.Function.Iterate
import Mathlib.Tactic.ByContra
import RuneGrid.Grid.Wrap

/-!
# Where a raw position lands

`Grid.wrap` looks at `2 * (height + 2)` positions and gives up.  The orbit of the
rule is infinite, so there is something to prove: `Lands.lt` says that an orbit
which meets a cell at all meets its first one within those looks, on every grid
and for every bias.  `wrap_finds_first_cell` draws the conclusion: `wrap` finds the first
cell of the whole orbit, and finds nothing only if the orbit has no cell.

The proof counts the ways in which the positions before the landing leave the
page.  No two of them are equal (`Lands.orbit_inj`), so

* at most `height` leave through the right end of their row, because the row
  alone decides where they go next (`Lands.card_right_le`), and
* at most `height` through the left end (`Lands.card_left_le`);
* the others stay in their column and only cross the top or the bottom.  Such a
  crossing opens the orbit, or follows a right exit, and then all crossings of
  that kind agree, or it follows a left exit from the first or the last row
  (`Lands.across_cases`).  That makes at most four, and three if the vertical
  shift is smaller than the page (`Lands.card_across_le_four`,
  `Lands.card_across_le_three`).

If the vertical shift is not smaller than the page, then one right exit is
followed by a crossing at once, and there is no second one
(`Lands.card_right_le_one`).
-/

namespace RuneGrid

namespace Grid

variable {g : Grid} {bias p q : Vec} {m n : Nat}

/-! ### One application of the rule -/

/-- The row in which a raw position continues. -/
def row (g : Grid) (p : Vec) : Nat :=
  (g.foldRow p.y).toNat

theorem foldRow_of_neg {y : Int} (h : y < 0) : g.foldRow y = g.height - 1 := by
  rw [foldRow, if_neg (by omega), if_pos h]

theorem foldRow_of_height_le {y : Int} (h : g.height ≤ y) : g.foldRow y = 0 :=
  if_pos h

theorem foldRow_of_lt {y : Int} (h0 : 0 ≤ y) (h1 : y < g.height) : g.foldRow y = y := by
  rw [foldRow, if_neg (by omega), if_neg (by omega)]

theorem edgeShift_of_neg {y : Int} (h : y < 0) : g.edgeShift bias y = -bias.x := by
  rw [edgeShift, if_neg (by omega), if_pos h]

theorem edgeShift_of_height_le {y : Int} (h : g.height ≤ y) : g.edgeShift bias y = bias.x :=
  if_pos h

theorem edgeShift_of_lt {y : Int} (h0 : 0 ≤ y) (h1 : y < g.height) : g.edgeShift bias y = 0 := by
  rw [edgeShift, if_neg (by omega), if_neg (by omega)]

theorem edgeShift_of_x_eq_zero (hb : bias.x = 0) (y : Int) : g.edgeShift bias y = 0 := by
  rw [edgeShift, hb]
  split
  · rfl
  · split <;> rfl

theorem foldRow_nonneg_lt (g : Grid) (y : Int) : 0 ≤ g.foldRow y ∧ g.foldRow y < g.height := by
  have := g.height_pos
  rcases lt_or_ge y 0 with h | h0
  · rw [foldRow_of_neg h]
    omega
  · rcases lt_or_ge y g.height with h1 | h
    · rw [foldRow_of_lt h0 h1]
      exact ⟨h0, h1⟩
    · rw [foldRow_of_height_le h]
      omega

theorem foldRow_eq (g : Grid) (p : Vec) : g.foldRow p.y = g.row p := by
  have := g.foldRow_nonneg_lt p.y
  rw [row]
  omega

theorem row_lt (g : Grid) (p : Vec) : g.row p < g.height := by
  have := g.foldRow_nonneg_lt p.y
  rw [row]
  omega

theorem row_of_lt (h0 : 0 ≤ p.y) (h1 : p.y < g.height) : (g.row p : Int) = p.y := by
  rw [← foldRow_eq, foldRow_of_lt h0 h1]

theorem row_of_neg (g : Grid) (h : p.y < 0) : g.row p = g.height - 1 := by
  have := g.height_pos
  rw [row, foldRow_of_neg h]
  omega

theorem row_of_height_le (h : g.height ≤ p.y) : g.row p = 0 := by
  rw [row, foldRow_of_height_le h]
  rfl

theorem row_natCast (x : Int) {r : Nat} (hr : r < g.height) : g.row ⟨x, r⟩ = r :=
  Int.ofNat_inj.1 (row_of_lt (Int.natCast_nonneg _) (Int.ofNat_lt.2 hr))

/-- Whether a position leaves through the right end of its row. -/
def ExitsRight (g : Grid) (p : Vec) : Prop :=
  (g.rowLength (g.row p) : Int) ≤ p.x

/-- Whether a position leaves through the left end of its row. -/
def ExitsLeft (p : Vec) : Prop :=
  p.x < 0

/-- Whether a position is in the columns of its row. -/
def StaysInRow (g : Grid) (p : Vec) : Prop :=
  0 ≤ p.x ∧ p.x < g.rowLength (g.row p)

theorem exit_cases (g : Grid) (p : Vec) : g.ExitsRight p ∨ ExitsLeft p ∨ g.StaysInRow p := by
  unfold ExitsRight ExitsLeft StaysInRow
  omega

theorem ExitsLeft.not_right (h : ExitsLeft p) : ¬ g.ExitsRight p := by
  unfold ExitsLeft at h
  unfold ExitsRight
  omega

theorem StaysInRow.not_right (h : g.StaysInRow p) : ¬ g.ExitsRight p :=
  not_le.2 h.2

theorem StaysInRow.not_left (h : g.StaysInRow p) : ¬ ExitsLeft p :=
  not_lt.2 h.1

theorem ExitsRight.fold_eq (h : g.ExitsRight p) : g.fold bias p = ⟨0, g.row p + bias.y⟩ := by
  rw [← foldRow_eq]
  exact if_pos h

theorem ExitsLeft.fold_eq (h : ExitsLeft p) :
    g.fold bias p = ⟨g.rowLength (g.row p) - 1, g.row p - bias.y⟩ := by
  rw [← foldRow_eq]
  exact (if_neg (h.not_right (g := g))).trans (if_pos h)

theorem StaysInRow.fold_eq (h : g.StaysInRow p) :
    g.fold bias p = ⟨p.x + g.edgeShift bias p.y, g.row p⟩ := by
  rw [← foldRow_eq]
  exact (if_neg h.not_right).trans (if_neg h.not_left)

theorem isSome_cell_iff : (g.cell p).isSome ↔ g.StaysInRow p ∧ 0 ≤ p.y ∧ p.y < g.height := by
  rw [cell_isSome_iff, StaysInRow]
  constructor
  · rintro ⟨hx, hl, h0, h1⟩
    have hr := row_of_lt h0 h1
    rw [show p.y.toNat = g.row p by omega] at hl
    exact ⟨⟨hx, hl⟩, h0, h1⟩
  · rintro ⟨⟨hx, hl⟩, h0, h1⟩
    have hr := row_of_lt h0 h1
    rw [show p.y.toNat = g.row p by omega]
    exact ⟨hx, hl, h0, h1⟩

theorem cell_isSome_of_column {x : Int} {r : Nat} (hr : r < g.height) (h0 : 0 ≤ x)
    (h1 : x < g.rowLength r) : (g.cell ⟨x, r⟩).isSome := by
  rw [isSome_cell_iff, StaysInRow, row_natCast x hr]
  exact ⟨⟨h0, h1⟩, Int.natCast_nonneg _, Int.ofNat_lt.2 hr⟩

/-- The rule keeps the cells. -/
theorem fold_of_cell (h : (g.cell p).isSome) : g.fold bias p = p := by
  obtain ⟨hs, h0, h1⟩ := isSome_cell_iff.1 h
  rw [hs.fold_eq, edgeShift_of_lt h0 h1, row_of_lt h0 h1, Int.add_zero]

/-- Off the cells, a position that stays in its row has crossed the top or the bottom. -/
theorem StaysInRow.outside (h : g.StaysInRow p) (hc : ¬ (g.cell p).isSome) :
    p.y < 0 ∨ g.height ≤ p.y := by
  rw [isSome_cell_iff] at hc
  by_contra hy
  exact hc ⟨h, by omega, by omega⟩

/-- It continues in the first or in the last row. -/
theorem row_eq_of_outside (h : p.y < 0 ∨ g.height ≤ p.y) :
    g.row p = 0 ∨ g.row p = g.height - 1 := by
  rcases h with h | h
  · exact Or.inr (g.row_of_neg h)
  · exact Or.inl (row_of_height_le h)

theorem row_fold_of_stays (h : g.StaysInRow p) : g.row (g.fold bias p) = g.row p := by
  rw [h.fold_eq, row_natCast _ (g.row_lt p)]

/-- Of two positions in one column that lie outside the page, both reached from a row of the page
by the same shift, the rule makes the same. -/
theorem fold_eq_of_outside {x s : Int} {r t : Nat} (hr : r < g.height) (ht : t < g.height)
    (hrs : (r + s : Int) < 0 ∨ g.height ≤ (r + s : Int))
    (hts : (t + s : Int) < 0 ∨ g.height ≤ (t + s : Int)) :
    g.fold bias ⟨x, r + s⟩ = g.fold bias ⟨x, t + s⟩ := by
  rcases hrs with hrs | hrs <;> rcases hts with hts | hts
  · simp only [fold, foldRow_of_neg hrs, foldRow_of_neg hts, edgeShift_of_neg hrs,
      edgeShift_of_neg hts]
  · omega
  · omega
  · simp only [fold, foldRow_of_height_le hrs, foldRow_of_height_le hts,
      edgeShift_of_height_le hrs, edgeShift_of_height_le hts]

/-! ### Orbits -/

/-- The position after `n` applications of the rule. -/
def orbit (g : Grid) (bias p : Vec) (n : Nat) : Vec :=
  (g.fold bias)^[n] p

@[simp] theorem orbit_zero : g.orbit bias p 0 = p := rfl

theorem orbit_succ (n : Nat) : g.orbit bias p (n + 1) = g.fold bias (g.orbit bias p n) :=
  Function.iterate_succ_apply' _ _ _

theorem orbit_add (m n : Nat) : g.orbit bias p (m + n) = g.orbit bias (g.orbit bias p n) m :=
  Function.iterate_add_apply _ _ _ _

/-- The orbit of `p` meets its first cell after `n` applications of the rule. -/
structure Lands (g : Grid) (bias p : Vec) (n : Nat) : Prop where
  cell : (g.cell (g.orbit bias p n)).isSome
  before : ∀ m < n, ¬ (g.cell (g.orbit bias p m)).isSome

theorem lands_zero_iff : g.Lands bias p 0 ↔ (g.cell p).isSome :=
  ⟨fun h => h.cell, fun h => ⟨h, fun m hm => absurd hm (Nat.not_lt_zero m)⟩⟩

theorem lands_succ_iff :
    g.Lands bias p (n + 1) ↔ ¬ (g.cell p).isSome ∧ g.Lands bias (g.fold bias p) n := by
  constructor
  · intro h
    exact ⟨h.before 0 (by omega), h.cell, fun m hm => h.before (m + 1) (by omega)⟩
  · rintro ⟨hp, h⟩
    refine ⟨h.cell, fun m hm => ?_⟩
    cases m with
    | zero => exact hp
    | succ m => exact h.before m (by omega)

/-- An orbit that meets a cell meets a first one. -/
theorem exists_lands (h : (g.cell (g.orbit bias p n)).isSome) : ∃ m, g.Lands bias p m := by
  classical
  have hex : ∃ n, (g.cell (g.orbit bias p n)).isSome := ⟨n, h⟩
  exact ⟨Nat.find hex, Nat.find_spec hex, fun m hm => Nat.find_min hex hm⟩

theorem firstCell_eq_some_iff {c : Vec} :
    g.firstCell bias n p = some c ↔ ∃ m < n, g.Lands bias p m ∧ g.orbit bias p m = c := by
  induction n generalizing p with
  | zero => simp [firstCell]
  | succ n ih =>
    rw [firstCell]
    by_cases hp : (g.cell p).isSome
    · rw [if_pos hp]
      constructor
      · intro h
        exact ⟨0, by omega, lands_zero_iff.2 hp, Option.some.inj h⟩
      · rintro ⟨m, -, hm, rfl⟩
        cases m with
        | zero => rfl
        | succ m => exact absurd hp (lands_succ_iff.1 hm).1
    · rw [if_neg hp, ih]
      constructor
      · rintro ⟨m, hlt, hm, rfl⟩
        exact ⟨m + 1, by omega, lands_succ_iff.2 ⟨hp, hm⟩, rfl⟩
      · rintro ⟨m, hlt, hm, rfl⟩
        cases m with
        | zero => exact absurd (lands_zero_iff.1 hm) hp
        | succ m => exact ⟨m, by omega, (lands_succ_iff.1 hm).2, rfl⟩

/-- Left exits are the beginning of the orbit or follow a position that stays in its row. -/
theorem left_cases {j : Nat} (hj : ExitsLeft (g.orbit bias p j)) :
    (∀ m < j, ExitsLeft (g.orbit bias p m)) ∨
      ∃ i, j = i + 1 ∧ g.StaysInRow (g.orbit bias p i) := by
  induction j with
  | zero => exact Or.inl fun m hm => absurd hm (Nat.not_lt_zero m)
  | succ i ih =>
    rcases g.exit_cases (g.orbit bias p i) with he | he | he
    · rw [orbit_succ, he.fold_eq] at hj
      exact absurd hj (lt_irrefl _)
    · -- the row is empty, so it is none in which a position stays
      have hempty : g.rowLength (g.row (g.orbit bias p i)) = 0 := by
        rw [orbit_succ, he.fold_eq] at hj
        unfold ExitsLeft at hj
        dsimp only at hj
        omega
      rcases ih he with hall | ⟨k, rfl, hk⟩
      · refine Or.inl fun m hm => ?_
        rcases Nat.lt_succ_iff_lt_or_eq.1 hm with hlt | rfl
        · exact hall m hlt
        · exact he
      · rw [orbit_succ, row_fold_of_stays hk] at hempty
        have := hk.1
        have := hk.2
        omega
    · exact Or.inr ⟨i, rfl, he⟩

namespace Lands

/-! ### No position comes back -/

theorem orbit_ne (h : g.Lands bias p n) {i j : Nat} (hij : i < j) (hj : j ≤ n) :
    g.orbit bias p i ≠ g.orbit bias p j := by
  intro he
  refine h.before (n - j + i) (by omega) ?_
  rw [orbit_add, he, ← orbit_add, Nat.sub_add_cancel hj]
  exact h.cell

theorem orbit_inj (h : g.Lands bias p n) {i j : Nat} (hi : i ≤ n) (hj : j ≤ n)
    (he : g.orbit bias p i = g.orbit bias p j) : i = j := by
  rcases Nat.lt_trichotomy i j with hij | hij | hij
  · exact absurd he (h.orbit_ne hij hj)
  · exact hij
  · exact absurd he.symm (h.orbit_ne hij hi)

theorem lt_of_not_cell (h : g.Lands bias p n) {i : Nat} (hi : i ≤ n)
    (hc : ¬ (g.cell (g.orbit bias p i)).isSome) : i < n := by
  refine lt_of_le_of_ne hi ?_
  rintro rfl
  exact hc h.cell

/-- Before the landing, positions with `k` marks are at most `k` if the mark decides the next
position. -/
theorem card_le (h : g.Lands bias p n) {S : Finset Nat} {k : Nat} (mark : Nat → Nat)
    (hn : ∀ i ∈ S, i < n) (hk : ∀ i ∈ S, mark i < k)
    (hnext : ∀ i ∈ S, ∀ j ∈ S, mark i = mark j →
      g.orbit bias p (i + 1) = g.orbit bias p (j + 1)) : S.card ≤ k := by
  rw [← Finset.card_range k]
  refine Finset.card_le_card_of_injOn mark (fun i hi => ?_) (fun i hi j hj he => ?_)
  · exact Finset.mem_coe.2 (Finset.mem_range.2 (hk i hi))
  · have := h.orbit_inj (hn i hi) (hn j hj) (hnext i hi j hj he)
    omega

/-! ### Exits through the ends of a row -/

open Classical in
/-- The numbers of the positions before the `n`-th that leave through the right end. -/
noncomputable def rights (g : Grid) (bias p : Vec) (n : Nat) : Finset Nat :=
  (Finset.range n).filter fun i => g.ExitsRight (g.orbit bias p i)

open Classical in
/-- Those that leave through the left end. -/
noncomputable def lefts (g : Grid) (bias p : Vec) (n : Nat) : Finset Nat :=
  (Finset.range n).filter fun i => ExitsLeft (g.orbit bias p i)

open Classical in
/-- Those that stay in their row. -/
noncomputable def stays (g : Grid) (bias p : Vec) (n : Nat) : Finset Nat :=
  (Finset.range n).filter fun i => g.StaysInRow (g.orbit bias p i)

theorem mem_rights {i : Nat} :
    i ∈ rights g bias p n ↔ i < n ∧ g.ExitsRight (g.orbit bias p i) := by
  simp [rights]

theorem mem_lefts {i : Nat} : i ∈ lefts g bias p n ↔ i < n ∧ ExitsLeft (g.orbit bias p i) := by
  simp [lefts]

theorem mem_stays {i : Nat} :
    i ∈ stays g bias p n ↔ i < n ∧ g.StaysInRow (g.orbit bias p i) := by
  simp [stays]

theorem card_le_of_three {S A B C : Finset Nat} (h : ∀ i ∈ S, i ∈ A ∨ i ∈ B ∨ i ∈ C) :
    S.card ≤ A.card + B.card + C.card := by
  have hsub : S ⊆ A ∪ B ∪ C := by
    intro i hi
    rw [Finset.mem_union, Finset.mem_union, or_assoc]
    exact h i hi
  calc S.card ≤ (A ∪ B ∪ C).card := Finset.card_le_card hsub
    _ ≤ (A ∪ B).card + C.card := Finset.card_union_le _ _
    _ ≤ A.card + B.card + C.card := Nat.add_le_add_right (Finset.card_union_le _ _) _

theorem le_card_add_card (g : Grid) (bias p : Vec) (n : Nat) :
    n ≤ (rights g bias p n).card + (lefts g bias p n).card + (stays g bias p n).card := by
  have hthree : ∀ i ∈ Finset.range n,
      i ∈ rights g bias p n ∨ i ∈ lefts g bias p n ∨ i ∈ stays g bias p n := by
    intro i hi
    rw [Finset.mem_range] at hi
    rcases g.exit_cases (g.orbit bias p i) with he | he | he
    · exact Or.inl (mem_rights.2 ⟨hi, he⟩)
    · exact Or.inr (Or.inl (mem_lefts.2 ⟨hi, he⟩))
    · exact Or.inr (Or.inr (mem_stays.2 ⟨hi, he⟩))
  have hcard := card_le_of_three hthree
  rwa [Finset.card_range] at hcard

theorem card_right_le (h : g.Lands bias p n) : (rights g bias p n).card ≤ g.height := by
  refine h.card_le (fun i => g.row (g.orbit bias p i)) (fun i hi => (mem_rights.1 hi).1)
    (fun i _ => g.row_lt _) (fun i hi j hj he => ?_)
  rw [orbit_succ, orbit_succ, (mem_rights.1 hi).2.fold_eq, (mem_rights.1 hj).2.fold_eq, he]

theorem card_left_le (h : g.Lands bias p n) : (lefts g bias p n).card ≤ g.height := by
  refine h.card_le (fun i => g.row (g.orbit bias p i)) (fun i hi => (mem_lefts.1 hi).1)
    (fun i _ => g.row_lt _) (fun i hi j hj he => ?_)
  rw [orbit_succ, orbit_succ, (mem_lefts.1 hi).2.fold_eq, (mem_lefts.1 hj).2.fold_eq, he]

/-! ### Crossings of the top and the bottom -/

/-- **What comes before a crossing**: left exits only, or a right exit, or a left exit from the
first or the last row. -/
theorem across_cases (h : g.Lands bias p n) {i : Nat} (hi : i ∈ stays g bias p n) :
    (∀ m < i, ExitsLeft (g.orbit bias p m)) ∨
      ∃ j, i = j + 1 ∧ (g.ExitsRight (g.orbit bias p j) ∨
        ExitsLeft (g.orbit bias p j) ∧
          (g.row (g.orbit bias p j) = 0 ∨ g.row (g.orbit bias p j) = g.height - 1)) := by
  obtain ⟨hin, hs⟩ := mem_stays.1 hi
  cases i with
  | zero => exact Or.inl fun m hm => absurd hm (Nat.not_lt_zero m)
  | succ j =>
    rcases g.exit_cases (g.orbit bias p j) with he | he | he
    · exact Or.inr ⟨j, rfl, Or.inl he⟩
    · rcases left_cases he with hall | ⟨k, rfl, hk⟩
      · refine Or.inl fun m hm => ?_
        rcases Nat.lt_succ_iff_lt_or_eq.1 hm with hlt | rfl
        · exact hall m hlt
        · exact he
      · refine Or.inr ⟨k + 1, rfl, Or.inr ⟨he, ?_⟩⟩
        rw [orbit_succ, row_fold_of_stays hk]
        exact row_eq_of_outside (hk.outside (h.before k (by omega)))
    · -- the second of two positions in one row would be a cell
      have hout := hs.outside (h.before (j + 1) hin)
      have hlt := g.row_lt (g.orbit bias p j)
      rw [orbit_succ, he.fold_eq] at hout
      dsimp only at hout
      omega

theorem eq_of_first {i j : Nat} (hi : i ∈ stays g bias p n)
    (hj : j ∈ stays g bias p n) (hil : ∀ m < i, ExitsLeft (g.orbit bias p m))
    (hjl : ∀ m < j, ExitsLeft (g.orbit bias p m)) : i = j := by
  rcases Nat.lt_trichotomy i j with hij | hij | hij
  · exact absurd (hjl i hij) (mem_stays.1 hi).2.not_left
  · exact hij
  · exact absurd (hil j hij) (mem_stays.1 hj).2.not_left

theorem outside_of_mem_stays (h : g.Lands bias p n) {i : Nat} (hi : i ∈ stays g bias p n) :
    (g.orbit bias p i).y < 0 ∨ g.height ≤ (g.orbit bias p i).y :=
  (mem_stays.1 hi).2.outside (h.before i (mem_stays.1 hi).1)

theorem eq_of_right (h : g.Lands bias p n) {i j : Nat} (hi : i + 1 ∈ stays g bias p n)
    (hj : j + 1 ∈ stays g bias p n) (hir : g.ExitsRight (g.orbit bias p i))
    (hjr : g.ExitsRight (g.orbit bias p j)) : i = j := by
  have hio := h.outside_of_mem_stays hi
  have hjo := h.outside_of_mem_stays hj
  have hin := (mem_stays.1 hi).1
  have hjn := (mem_stays.1 hj).1
  rw [orbit_succ, hir.fold_eq] at hio
  rw [orbit_succ, hjr.fold_eq] at hjo
  have hnext : g.orbit bias p (i + 2) = g.orbit bias p (j + 2) := by
    rw [orbit_succ, orbit_succ i, orbit_succ (j + 1), orbit_succ j, hir.fold_eq, hjr.fold_eq]
    exact fold_eq_of_outside (g.row_lt _) (g.row_lt _) hio hjo
  have := h.orbit_inj hin hjn hnext
  omega

/-- The first and the last row, as far as a left exit from them crosses the top or the bottom. -/
def CrossesLeft (g : Grid) (bias : Vec) (r : Nat) : Prop :=
  (r = 0 ∨ r = g.height - 1) ∧ ((r : Int) - bias.y < 0 ∨ (g.height : Int) ≤ r - bias.y)

theorem crossesLeft_of_left (h : g.Lands bias p n) {i : Nat} (hi : i + 1 ∈ stays g bias p n)
    (hl : ExitsLeft (g.orbit bias p i))
    (hr : g.row (g.orbit bias p i) = 0 ∨ g.row (g.orbit bias p i) = g.height - 1) :
    CrossesLeft g bias (g.row (g.orbit bias p i)) := by
  have hio := h.outside_of_mem_stays hi
  rw [orbit_succ, hl.fold_eq] at hio
  exact ⟨hr, hio⟩

theorem eq_of_left (h : g.Lands bias p n) {i j : Nat} (hi : i < n) (hj : j < n)
    (hil : ExitsLeft (g.orbit bias p i)) (hjl : ExitsLeft (g.orbit bias p j))
    (hr : g.row (g.orbit bias p i) = g.row (g.orbit bias p j)) : i = j := by
  have hnext : g.orbit bias p (i + 1) = g.orbit bias p (j + 1) := by
    rw [orbit_succ, orbit_succ, hil.fold_eq, hjl.fold_eq, hr]
  have := h.orbit_inj hi hj hnext
  omega

open Classical in
/-- The crossings before which there are left exits only. -/
noncomputable def opening (g : Grid) (bias p : Vec) (n : Nat) : Finset Nat :=
  (stays g bias p n).filter fun i => ∀ m < i, ExitsLeft (g.orbit bias p m)

open Classical in
/-- Those that follow a right exit. -/
noncomputable def afterRight (g : Grid) (bias p : Vec) (n : Nat) : Finset Nat :=
  (stays g bias p n).filter fun i => ∃ j, i = j + 1 ∧ g.ExitsRight (g.orbit bias p j)

open Classical in
/-- Those that follow a left exit from the first or the last row. -/
noncomputable def afterLeft (g : Grid) (bias p : Vec) (n : Nat) : Finset Nat :=
  (stays g bias p n).filter fun i => ∃ j, i = j + 1 ∧ ExitsLeft (g.orbit bias p j) ∧
    (g.row (g.orbit bias p j) = 0 ∨ g.row (g.orbit bias p j) = g.height - 1)

theorem mem_opening {i : Nat} : i ∈ opening g bias p n ↔
    i ∈ stays g bias p n ∧ ∀ m < i, ExitsLeft (g.orbit bias p m) := by
  simp only [opening, Finset.mem_filter]

theorem mem_afterRight {i : Nat} : i ∈ afterRight g bias p n ↔
    i ∈ stays g bias p n ∧ ∃ j, i = j + 1 ∧ g.ExitsRight (g.orbit bias p j) := by
  simp only [afterRight, Finset.mem_filter]

theorem mem_afterLeft {i : Nat} : i ∈ afterLeft g bias p n ↔
    i ∈ stays g bias p n ∧ ∃ j, i = j + 1 ∧ ExitsLeft (g.orbit bias p j) ∧
      (g.row (g.orbit bias p j) = 0 ∨ g.row (g.orbit bias p j) = g.height - 1) := by
  simp only [afterLeft, Finset.mem_filter]

theorem card_opening_le_one : (opening g bias p n).card ≤ 1 := by
  refine Finset.card_le_one.2 fun i hi j hj => ?_
  obtain ⟨hi, hil⟩ := mem_opening.1 hi
  obtain ⟨hj, hjl⟩ := mem_opening.1 hj
  exact eq_of_first hi hj hil hjl

theorem card_afterRight_le_one (h : g.Lands bias p n) : (afterRight g bias p n).card ≤ 1 := by
  refine Finset.card_le_one.2 fun i hi j hj => ?_
  obtain ⟨hi, i, rfl, hir⟩ := mem_afterRight.1 hi
  obtain ⟨hj, j, rfl, hjr⟩ := mem_afterRight.1 hj
  rw [h.eq_of_right hi hj hir hjr]

/-- The left exits from the first and the last row that cross are as many as `mark` tells
apart. -/
theorem card_afterLeft_le (h : g.Lands bias p n) {k : Nat} (mark : Nat → Nat)
    (hk : ∀ r, CrossesLeft g bias r → mark r < k)
    (hmark : ∀ r t, CrossesLeft g bias r → CrossesLeft g bias t → mark r = mark t → r = t) :
    (afterLeft g bias p n).card ≤ k := by
  refine h.card_le (fun i => mark (g.row (g.orbit bias p (i - 1)))) (fun i hi => ?_)
    (fun i hi => ?_) (fun i hi j hj he => ?_)
  · exact (mem_stays.1 (mem_afterLeft.1 hi).1).1
  · obtain ⟨hi, i, rfl, hil, hir⟩ := mem_afterLeft.1 hi
    exact hk _ (h.crossesLeft_of_left hi hil hir)
  · obtain ⟨hi, i, rfl, hil, hir⟩ := mem_afterLeft.1 hi
    obtain ⟨hj, j, rfl, hjl, hjr⟩ := mem_afterLeft.1 hj
    have hrow := hmark _ _ (h.crossesLeft_of_left hi hil hir) (h.crossesLeft_of_left hj hjl hjr) he
    have hin := (mem_stays.1 hi).1
    have hjn := (mem_stays.1 hj).1
    rw [h.eq_of_left (by omega) (by omega) hil hjl hrow]

/-- The crossings are at most two more than the left exits from the first and the last row that
cross. -/
theorem card_across_le (h : g.Lands bias p n) {k : Nat} (mark : Nat → Nat)
    (hk : ∀ r, CrossesLeft g bias r → mark r < k)
    (hmark : ∀ r t, CrossesLeft g bias r → CrossesLeft g bias t → mark r = mark t → r = t) :
    (stays g bias p n).card ≤ 1 + 1 + k := by
  have hthree : ∀ i ∈ stays g bias p n,
      i ∈ opening g bias p n ∨ i ∈ afterRight g bias p n ∨ i ∈ afterLeft g bias p n := by
    intro i hi
    rcases h.across_cases hi with hf | ⟨j, rfl, hr | hl⟩
    · exact Or.inl (mem_opening.2 ⟨hi, hf⟩)
    · exact Or.inr (Or.inl (mem_afterRight.2 ⟨hi, j, rfl, hr⟩))
    · exact Or.inr (Or.inr (mem_afterLeft.2 ⟨hi, j, rfl, hl⟩))
  calc (stays g bias p n).card ≤ _ := card_le_of_three hthree
    _ ≤ 1 + 1 + k := Nat.add_le_add (Nat.add_le_add card_opening_le_one h.card_afterRight_le_one)
      (h.card_afterLeft_le mark hk hmark)

theorem card_across_le_four (h : g.Lands bias p n) : (stays g bias p n).card ≤ 4 := by
  refine h.card_across_le (k := 2) (fun r => if r = 0 then 0 else 1) (fun r _ => ?_)
    (fun r t hr ht he => ?_)
  · split <;> omega
  · have hr := hr.1
    have ht := ht.1
    split at he <;> split at he <;> omega

theorem card_across_le_three (h : g.Lands bias p n)
    (hone : ∀ r t, CrossesLeft g bias r → CrossesLeft g bias t → r = t) :
    (stays g bias p n).card ≤ 3 :=
  h.card_across_le (fun _ => 0) (fun _ _ => Nat.one_pos) fun r t hr ht _ => hone r t hr ht

/-- A shift within the page leads across an edge from the first or from the last row only. -/
theorem eq_of_crossesLeft (hb : ¬ (bias.y ≤ -g.height ∨ (g.height : Int) ≤ bias.y)) {r t : Nat}
    (hr : CrossesLeft g bias r) (ht : CrossesLeft g bias t) : r = t := by
  obtain ⟨hr, hrb⟩ := hr
  obtain ⟨ht, htb⟩ := ht
  omega

theorem CrossesLeft.eq_zero (h1 : g.height = 1) {r : Nat} (hr : CrossesLeft g bias r) : r = 0 := by
  rcases hr.1 with hr | hr
  · exact hr
  · omega

/-! ### A vertical shift over the whole page -/

/-- If the vertical shift leads off the page from every row, then the position after a right exit
crosses the top or the bottom and stays in its row. -/
theorem succ_mem_stays_of_right (h : g.Lands bias p n)
    (hb : bias.y ≤ -g.height ∨ (g.height : Int) ≤ bias.y) {i : Nat}
    (hi : i ∈ rights g bias p n) : i + 1 ∈ stays g bias p n := by
  obtain ⟨hin, hr⟩ := mem_rights.1 hi
  have hout : ∀ j, (g.row (g.orbit bias p j) : Int) + bias.y < 0 ∨
      (g.height : Int) ≤ g.row (g.orbit bias p j) + bias.y := by
    intro j
    have := g.row_lt (g.orbit bias p j)
    omega
  have hoff : ∀ j < n, g.ExitsRight (g.orbit bias p j) → j + 1 < n := by
    intro j hj hjr
    refine h.lt_of_not_cell hj fun hc => ?_
    obtain ⟨-, h0, h1⟩ := isSome_cell_iff.1 hc
    have := hout j
    rw [orbit_succ, hjr.fold_eq] at h0 h1
    dsimp only at h0 h1
    omega
  have hin1 := hoff i hin hr
  refine mem_stays.2 ⟨hin1, ?_⟩
  rcases g.exit_cases (g.orbit bias p (i + 1)) with he | he | he
  · -- a second right exit would lead to where it came from
    have hback : g.orbit bias p (i + 2) = g.orbit bias p (i + 3) := by
      calc g.orbit bias p (i + 2) = g.fold bias (g.orbit bias p (i + 1)) := orbit_succ _
        _ = g.fold bias ⟨0, g.row (g.orbit bias p i) + bias.y⟩ := by rw [orbit_succ, hr.fold_eq]
        _ = g.fold bias ⟨0, g.row (g.orbit bias p (i + 1)) + bias.y⟩ :=
          fold_eq_of_outside (g.row_lt _) (g.row_lt _) (hout i) (hout (i + 1))
        _ = g.fold bias (g.orbit bias p (i + 2)) := by rw [orbit_succ (i + 1), he.fold_eq]
        _ = g.orbit bias p (i + 3) := (orbit_succ _).symm
    exact absurd hback (h.orbit_ne (by omega) (hoff (i + 1) hin1 he))
  · rw [orbit_succ, hr.fold_eq] at he
    exact absurd he (lt_irrefl _)
  · exact he

theorem card_right_le_one (h : g.Lands bias p n)
    (hb : bias.y ≤ -g.height ∨ (g.height : Int) ≤ bias.y) :
    (rights g bias p n).card ≤ 1 := by
  refine Finset.card_le_one.2 fun i hi j hj => ?_
  exact h.eq_of_right (h.succ_mem_stays_of_right hb hi) (h.succ_mem_stays_of_right hb hj)
    (mem_rights.1 hi).2 (mem_rights.1 hj).2

/-- **The first cell of an orbit comes within the looks of `Grid.wrap`.** -/
theorem lt (h : g.Lands bias p n) : n < 2 * (g.height + 2) := by
  have hpos := g.height_pos
  have hn := le_card_add_card g bias p n
  have hr := h.card_right_le
  have hl := h.card_left_le
  by_cases hb : bias.y ≤ -g.height ∨ (g.height : Int) ≤ bias.y
  · have hr1 := h.card_right_le_one hb
    by_cases h1 : g.height = 1
    · have hs := h.card_across_le_three fun r t hr ht => (hr.eq_zero h1).trans (ht.eq_zero h1).symm
      omega
    · have hs := h.card_across_le_four
      omega
  · have hs := h.card_across_le_three fun r t => eq_of_crossesLeft hb
    omega

end Lands

/-! ### What `wrap` finds -/

theorem wrap_eq_some_iff {c : Vec} :
    g.wrap bias p = some c ↔ ∃ n, g.Lands bias p n ∧ g.orbit bias p n = c := by
  rw [wrap, firstCell_eq_some_iff]
  constructor
  · rintro ⟨n, -, hn, he⟩
    exact ⟨n, hn, he⟩
  · rintro ⟨n, hn, he⟩
    exact ⟨n, hn.lt, hn, he⟩

theorem wrap_isSome_iff : (g.wrap bias p).isSome ↔ ∃ n, (g.cell (g.orbit bias p n)).isSome := by
  rw [Option.isSome_iff_exists]
  constructor
  · rintro ⟨c, hc⟩
    obtain ⟨n, hn, -⟩ := wrap_eq_some_iff.1 hc
    exact ⟨n, hn.cell⟩
  · rintro ⟨n, hn⟩
    obtain ⟨m, hm⟩ := exists_lands hn
    exact ⟨_, wrap_eq_some_iff.2 ⟨m, hm, rfl⟩⟩

theorem wrap_eq_none_iff : g.wrap bias p = none ↔ ∀ n, g.cell (g.orbit bias p n) = none := by
  rw [← Option.not_isSome_iff_eq_none, wrap_isSome_iff, not_exists]
  exact forall_congr' fun n => Option.not_isSome_iff_eq_none

theorem cell_eq_none_of_wrap (h : g.wrap bias p = none) : g.cell p = none :=
  wrap_eq_none_iff.1 h 0

/-- `wrap` may apply the rule once before it looks. -/
theorem wrap_fold (g : Grid) (bias p : Vec) : g.wrap bias (g.fold bias p) = g.wrap bias p := by
  by_cases hp : (g.cell p).isSome
  · rw [fold_of_cell hp]
  · refine Option.ext fun c => ?_
    rw [wrap_eq_some_iff, wrap_eq_some_iff]
    constructor
    · rintro ⟨n, hn, rfl⟩
      exact ⟨n + 1, lands_succ_iff.2 ⟨hp, hn⟩, rfl⟩
    · rintro ⟨n, hn, rfl⟩
      cases n with
      | zero => exact absurd (lands_zero_iff.1 hn) hp
      | succ n => exact ⟨n, (lands_succ_iff.1 hn).2, rfl⟩

/-- **`wrap` finds the first cell of the whole orbit**, and finds nothing only if the orbit has no
cell. -/
theorem wrap_finds_first_cell (g : Grid) (bias p : Vec) :
    (∀ c, g.wrap bias p = some c ↔ ∃ n, g.Lands bias p n ∧ g.orbit bias p n = c) ∧
      (g.wrap bias p = none ↔ ∀ n, g.cell (g.orbit bias p n) = none) :=
  ⟨fun _ => wrap_eq_some_iff, wrap_eq_none_iff⟩

end Grid

end RuneGrid
