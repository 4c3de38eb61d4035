import Mathlib.Data.List.Nodup
import RuneGrid.Program
import RuneGrid.Proofs.Heading

/-!
# Programs as they are built

A program comes from a source text or from rows of cells.  Either way its pointers are
those of its grid (`Program.Built.eq_ofGrid`), and each of them stands, at the start, on
the start glyph that gives it its velocity and its bias (`Program.Built.spawned`).
-/

namespace RuneGrid

/-! ### The cells of a grid -/

theorem Grid.cell_natCast (g : Grid) (x y : Nat) :
    g.cell ⟨x, y⟩ = g.rows[y]?.bind (·[x]?) := rfl

theorem Grid.mem_cells_iff {g : Grid} {pos : Vec} {c : Char} :
    (pos, c) ∈ g.cells ↔ g.cell pos = some c := by
  simp only [cells, List.mem_flatMap, List.mem_map, Prod.exists, List.mk_mem_zipIdx_iff_getElem?,
    Prod.mk.injEq]
  constructor
  · rintro ⟨row, y, hrow, _, x, hx, rfl, rfl⟩
    rw [cell_natCast, hrow]
    exact hx
  · intro h
    have hsome : (g.cell pos).isSome := by rw [h]; rfl
    obtain ⟨hx, -, hy, -⟩ := cell_isSome_iff.1 hsome
    obtain ⟨x, y⟩ := pos
    obtain ⟨x, rfl⟩ := Int.eq_ofNat_of_zero_le hx
    obtain ⟨y, rfl⟩ := Int.eq_ofNat_of_zero_le hy
    rw [cell_natCast, Option.bind_eq_some_iff] at h
    obtain ⟨row, hrow, hx⟩ := h
    exact ⟨row, y, hrow, c, x, hx, rfl, rfl⟩

theorem Grid.exists_row_of_cell {g : Grid} {pos : Vec} {c : Char} (h : g.cell pos = some c) :
    ∃ row ∈ g.rows, c ∈ row := by
  obtain ⟨⟨row, y⟩, hrow, hmem⟩ := List.mem_flatMap.1 (mem_cells_iff.2 h)
  obtain ⟨⟨c', x⟩, hx, heq⟩ := List.mem_map.1 hmem
  cases heq
  exact ⟨row, List.fst_mem_of_mem_zipIdx hrow, List.fst_mem_of_mem_zipIdx hx⟩

/-! ### The pointers at the start -/

/-- A pointer that has not moved yet: it stands on its start glyph, which has sent it off. -/
structure Pointer.Spawned (g : Grid) (p : Pointer) : Prop where
  origin : p.origin = p.pos
  cell : g.cell p.pos = some p.symbol
  heading : Heading.ofGlyph? p.symbol = some ⟨p.velocity, p.bias⟩
  register : p.register = some 0

theorem Pointer.Spawned.of_spawn? {g : Grid} {id : Nat} {pos : Vec} {c : Char} {p : Pointer}
    (hc : g.cell pos = some c) (h : Pointer.spawn? id pos c = some p) : p.Spawned g := by
  obtain ⟨heading, hh, rfl⟩ := Option.map_eq_some_iff.1 h
  exact ⟨rfl, hc, hh, rfl⟩

theorem Grid.pointers_spec {g : Grid} {i : Nat} {p : Pointer} (h : g.pointers[i]? = some p) :
    p.id = i ∧ p.Spawned g := by
  rw [pointers, List.getElem?_mapIdx, Option.map_eq_some_iff] at h
  obtain ⟨q, hq, rfl⟩ := h
  obtain ⟨⟨pos, c⟩, hmem, hspawn⟩ := List.mem_filterMap.1 (List.mem_of_getElem? hq)
  have hs := Pointer.Spawned.of_spawn? (mem_cells_iff.1 hmem) hspawn
  exact ⟨rfl, hs.origin, hs.cell, hs.heading, hs.register⟩

/-- What does not depend on the numbers of the pointers can be read off their cells. -/
theorem Grid.map_pointers_eq {α : Type} {f : Pointer → α} (hf : ∀ p id, f { p with id } = f p)
    (g : Grid) : g.pointers.map f =
      g.cells.filterMap fun (pos, c) => (Pointer.spawn? 0 pos c).map f := by
  rw [pointers, ← List.map_filterMap]
  refine List.ext_getElem? fun i => ?_
  rw [List.getElem?_map, List.getElem?_mapIdx, List.getElem?_map, Option.map_map]
  exact congrArg (Option.map · _) (funext fun p => hf p i)

/-! ### The ways to build a program -/

/-- The programs that are read from a source or made of rows. -/
inductive Program.Built (program : Program) : Prop
  | load (source : String) (h : Program.load source = .ok program)
  | ofRows (rows : List (List Char)) (h : Program.ofRows rows = .ok program)

namespace Program.Built

variable {program : Program} {i : Nat} {p : Pointer}

theorem eq_ofGrid (h : program.Built) : program = .ofGrid program.grid := by
  cases h with
  | load source h =>
    rw [Program.load] at h
    cases hg : Grid.parse source with
    | error e => rw [hg] at h; cases h
    | ok g => rw [hg] at h; cases h; rfl
  | ofRows rows h =>
    rw [Program.ofRows] at h
    cases hg : Grid.ofRows rows with
    | error e => rw [hg] at h; cases h
    | ok g => rw [hg] at h; cases h; rfl

theorem id_eq (h : program.Built) (hp : program.pointers[i]? = some p) : p.id = i := by
  rw [h.eq_ofGrid] at hp
  exact (Grid.pointers_spec hp).1

theorem spawned (h : program.Built) (hp : p ∈ program.pointers) : p.Spawned program.grid := by
  rw [h.eq_ofGrid] at hp
  obtain ⟨i, hi⟩ := List.getElem?_of_mem hp
  exact (Grid.pointers_spec hi).2

theorem map_id (h : program.Built) :
    program.pointers.map (·.id) = List.range program.pointers.length := by
  refine List.ext_getElem? fun i => ?_
  rw [List.getElem?_map]
  by_cases hi : i < program.pointers.length
  · rw [List.getElem?_range hi, List.getElem?_eq_getElem hi]
    exact congrArg some (h.id_eq (List.getElem?_eq_getElem hi))
  · rw [List.getElem?_eq_none (by omega), List.getElem?_eq_none (by simpa using hi)]
    rfl

end Program.Built

/-! ### Programs in which a tick fails -/

/-- A pointer on its way south, and a row without cells before the next one. -/
def Program.gap : Program :=
  .ofGrid ⟨[['ᛍ'], [], ['ᛧ']], by decide⟩

theorem Program.built_gap : gap.Built :=
  .ofRows [['ᛍ'], [], ['ᛧ']] rfl

/-- A pointer on its way to an `end` cell, and one on its way south to a row without cells. -/
def Program.shoal : Program :=
  .ofGrid ⟨[['ᛌ', 'ᛧ'], ['ᛍ'], []], by decide⟩

theorem Program.built_shoal : shoal.Built :=
  .ofRows [['ᛌ', 'ᛧ'], ['ᛍ'], []] rfl

/-- Three pointers on their way south, one to an `end` cell, the others to additions, while there is
one operand on the stack. -/
def Program.scarce : Program :=
  .ofGrid ⟨[['ᛍ', 'ᛍ', 'ᛍ'], ['ᛧ', 'ᛟ', 'ᛟ']], by decide⟩

theorem Program.built_scarce : scarce.Built :=
  .ofRows [['ᛍ', 'ᛍ', 'ᛍ'], ['ᛧ', 'ᛟ', 'ᛟ']] rfl

/-! ### Programs in which every tick gets done -/

/-- Two pointers side by side on their way south, one to an addition, the other to an output. -/
def Program.lanes : Program :=
  .ofGrid ⟨[['ᛍ', 'ᛍ'], ['ᛟ', 'ᚭ'], ['1', 'ᛁ']], by decide⟩

theorem Program.built_lanes : lanes.Built :=
  .ofRows [['ᛍ', 'ᛍ'], ['ᛟ', 'ᚭ'], ['1', 'ᛁ']] rfl

/-- A pointer that goes around in one row and pushes the 0 that it has started with. -/
def Program.pusher : Program :=
  .ofGrid ⟨[['ᛌ', 'ᛙ']], by decide⟩

theorem Program.built_pusher : pusher.Built :=
  .ofRows [['ᛌ', 'ᛙ']] rfl

end RuneGrid
