import RuneGrid.Proofs.Program

/-!
# The pointers of a grid, in reading order

The cells of a grid are listed in reading order (`pairwise_cells`), and each start glyph among them
sets off one pointer.  So no pointer is lost and none comes twice (`pairwise_pointers`,
`mem_map_pos_iff`), and the pointers of two grids on top of each other are those of the upper one
followed by those of the lower one (`pointers_stack`).

`pointers_seeded` puts this together with what `pointers_spec` says of each pointer.
-/

namespace RuneGrid

/-- Whether a position comes before another one in reading order: in a row further up, or further to
the left in the same row. -/
def Vec.Precedes (p q : Vec) : Prop :=
  p.y < q.y ∨ p.y = q.y ∧ p.x < q.x

/-- The pointer as it would be further down, with so many others before it. -/
def Pointer.lowered (rows before : Nat) (p : Pointer) : Pointer :=
  { p with
    id := p.id + before
    pos := p.pos + ⟨0, rows⟩
    origin := p.origin + ⟨0, rows⟩ }

theorem Pointer.spawn?_lowered (rows : Nat) (pos : Vec) (c : Char) :
    spawn? 0 (pos + ⟨0, rows⟩) c = (spawn? 0 pos c).map (lowered rows 0) := by
  unfold spawn?
  rw [Option.map_map]
  rfl

namespace Grid

variable {g : Grid} {pos : Vec}

/-! ### Reading order -/

theorem pairwise_zipIdx {α : Type} (l : List α) : l.zipIdx.Pairwise fun a b => a.2 < b.2 := by
  rw [← List.pairwise_map, List.zipIdx_map_snd]
  exact List.pairwise_lt_range' 1

/-- **The cells are listed in reading order.** -/
theorem pairwise_cells (g : Grid) : g.cells.Pairwise fun a b => a.1.Precedes b.1 := by
  rw [cells, List.pairwise_flatMap]
  constructor
  · rintro ⟨row, y⟩ -
    rw [List.pairwise_map]
    exact (pairwise_zipIdx row).imp fun hx => Or.inr ⟨rfl, Int.ofNat_lt.2 hx⟩
  · refine (pairwise_zipIdx g.rows).imp fun hy a ha b hb => Or.inl ?_
    obtain ⟨_, -, rfl⟩ := List.mem_map.1 ha
    obtain ⟨_, -, rfl⟩ := List.mem_map.1 hb
    exact Int.ofNat_lt.2 hy

theorem map_pos_pointers (g : Grid) : g.pointers.map (·.pos) =
    g.cells.filterMap fun (pos, c) => (Heading.ofGlyph? c).map fun _ => pos := by
  rw [map_pointers_eq fun _ _ => rfl]
  exact congrArg (List.filterMap · g.cells) (funext fun (_, _) => Option.map_map ..)

/-- **So are the pointers**, and no two of them stand on one cell. -/
theorem pairwise_pointers (g : Grid) : (g.pointers.map (·.pos)).Pairwise Vec.Precedes := by
  rw [map_pos_pointers, List.pairwise_filterMap]
  refine g.pairwise_cells.imp fun {a b} hab p hp q hq => ?_
  obtain ⟨_, -, rfl⟩ := Option.map_eq_some_iff.1 hp
  obtain ⟨_, -, rfl⟩ := Option.map_eq_some_iff.1 hq
  exact hab

/-- There is a pointer on each start glyph, and on no other cell. -/
theorem mem_map_pos_iff : pos ∈ g.pointers.map (·.pos) ↔
    ∃ c heading, g.cell pos = some c ∧ Heading.ofGlyph? c = some heading := by
  rw [map_pos_pointers, List.mem_filterMap]
  constructor
  · rintro ⟨⟨_, c⟩, hmem, hc⟩
    obtain ⟨heading, hheading, rfl⟩ := Option.map_eq_some_iff.1 hc
    exact ⟨c, heading, mem_cells_iff.1 hmem, hheading⟩
  · rintro ⟨c, heading, hc, hheading⟩
    exact ⟨(pos, c), mem_cells_iff.2 hc, Option.map_eq_some_iff.2 ⟨heading, hheading, rfl⟩⟩

/-! ### One grid on top of another -/

/-- The rows of `g` and below them those of `below`. -/
def stack (g below : Grid) : Grid :=
  ⟨g.rows ++ below.rows, List.append_ne_nil_of_left_ne_nil g.rows_ne_nil _⟩

theorem cells_stack (g below : Grid) : (g.stack below).cells =
    g.cells ++ below.cells.map fun (pos, c) => (pos + ⟨0, g.height⟩, c) := by
  have hlower : below.rows.zipIdx g.rows.length =
      below.rows.zipIdx.map (Prod.map id (g.rows.length + ·)) := List.zipIdx_eq_map_add
  rw [cells, stack, List.zipIdx_append, List.flatMap_append, Nat.zero_add, hlower,
    List.flatMap_map, cells, cells, List.map_flatMap]
  refine congrArg (_ ++ ·) (List.flatMap_congr ?_)
  rintro ⟨row, y⟩ -
  rw [List.map_map]
  refine List.map_congr_left ?_
  rintro ⟨c, x⟩ -
  have hpos : (⟨x, (g.rows.length + y : Nat)⟩ : Vec) = ⟨x, y⟩ + ⟨0, g.height⟩ := by
    ext
    · simp
    · simp [height, Int.add_comm]
  exact congrArg (·, c) hpos

/-- **The pointers of two grids on top of each other**: those of the upper one keep their numbers,
and those of the lower one count on. -/
theorem pointers_stack (g below : Grid) : (g.stack below).pointers =
    g.pointers ++ below.pointers.map (·.lowered g.height g.pointers.length) := by
  have hlower : (below.cells.map fun (pos, c) => (pos + (⟨0, g.height⟩ : Vec), c)).filterMap
        (fun (pos, c) => Pointer.spawn? 0 pos c) =
      (below.cells.filterMap fun (pos, c) => Pointer.spawn? 0 pos c).map
        (·.lowered g.height 0) := by
    rw [List.filterMap_map, List.map_filterMap]
    exact congrArg (List.filterMap · below.cells)
      (funext fun (pos, c) => Pointer.spawn?_lowered g.height pos c)
  rw [pointers, cells_stack, List.filterMap_append, List.mapIdx_append, hlower]
  refine congrArg₂ (· ++ ·) rfl (List.ext_getElem? fun i => ?_)
  rw [List.getElem?_mapIdx, List.getElem?_map, List.getElem?_map, pointers, pointers,
    List.getElem?_mapIdx, List.length_mapIdx, Option.map_map, Option.map_map]
  rfl

/-- **Pointers are seeded without loss or duplication.**  They come in reading order, one for each
start glyph on the grid and none for any other cell.  Each of them has its place in this order as
its number and stands, with register 0, on the start glyph that gives it its velocity and its bias.
For a grid on top of another one, the pointers of the lower grid come after those of the upper
one. -/
theorem pointers_seeded (g : Grid) :
    (g.pointers.map (·.pos)).Pairwise Vec.Precedes ∧
    (∀ pos, pos ∈ g.pointers.map (·.pos) ↔
      ∃ c heading, g.cell pos = some c ∧ Heading.ofGlyph? c = some heading) ∧
    (∀ (i : Nat) (p : Pointer), g.pointers[i]? = some p → p.id = i ∧ p.Spawned g) ∧
    ∀ below, (g.stack below).pointers =
      g.pointers ++ below.pointers.map (·.lowered g.height g.pointers.length) :=
  ⟨g.pairwise_pointers, fun _ => mem_map_pos_iff, fun _ _ => pointers_spec, g.pointers_stack⟩

/-- Four start glyphs on rows of different lengths, one of which is empty. -/
def quartet : Grid :=
  ⟨[['ᚠ', 'ᛍ', 'ᚠ', 'ᛌ'], [], ['ᛋ'], [' ', ' ', 'ᛊ']], by decide⟩

/-- The third pointer of `quartet`, and the same one in the lower of two of them. -/
theorem quartet_seeded : ∃ p q, quartet.pointers[2]? = some p ∧ p.pos = ⟨0, 2⟩ ∧ p.id = 2 ∧
    p.Spawned quartet ∧ (quartet.stack quartet).pointers[6]? = some q ∧ q = p.lowered 4 4 ∧
    q.id = 6 ∧ q.Spawned (quartet.stack quartet) := by
  obtain ⟨-, -, hspawned, hstack⟩ := pointers_seeded quartet
  obtain ⟨-, -, hspawned', -⟩ := pointers_seeded (quartet.stack quartet)
  obtain ⟨p, hp, hpos⟩ : ∃ p, quartet.pointers[2]? = some p ∧ p.pos = ⟨0, 2⟩ := ⟨_, rfl, rfl⟩
  have hq : (quartet.stack quartet).pointers[6]? = some (p.lowered 4 4) := by
    rw [hstack, List.getElem?_append_right (by decide), List.getElem?_map]
    exact Option.map_eq_some_iff.2 ⟨p, hp, rfl⟩
  exact ⟨p, _, hp, hpos, (hspawned 2 p hp).1, (hspawned 2 p hp).2, hq, rfl, (hspawned' 6 _ hq).1,
    (hspawned' 6 _ hq).2⟩

end Grid

end RuneGrid
