import RuneGrid.Proofs.Execution.Halting
import RuneGrid.Proofs.Execution.Stranding
import RuneGrid.Proofs.Grid.Words

/-!
# Pointers next to the page

Every pointer of a session is on a cell or where a step from a cell has led it, so it is next to the
page (`Pointer.IsNear`, `Session.isNear`).  What it does in a turn starts from a cell: it turns one of
the four directions, takes a step, and has the new position wrapped.

`Pointer.moveOn?` is all of this in words, and `Scene.Executes.moveOn?_eq` says that it is the same as
on integers.  `coordinates_stay_near` states it for all ticks of a session, those that its runs make
included.
-/

namespace RuneGrid

variable {σ : Type} [Sink σ] {g : Grid}

/-! ### Turns in words -/

/-- The velocity with which a pointer leaves the cell of an instruction. -/
def Instruction.velocity? (i : Instruction) (p : Pointer) : Option Vec :=
  match i with
  | turn t => p.velocity.turned? t
  | faceEast => some .east
  | faceWest => some .west
  | reverseIf => if p.isNonzero then p.velocity.turned? .half else some p.velocity
  | _ => some p.velocity

/-- The coordinates of a turn: where a pointer comes that executes its cell and moves on, and the cell
that this position stands for, if there is one. -/
def Pointer.moveOn? (g : Grid) (p : Pointer) : Option (Vec × Option Vec) := do
  let glyph ← g.cell p.pos
  let velocity ← (Instruction.ofGlyph glyph).velocity? p
  let raw ← p.pos.add? velocity
  return (raw, ← g.wrap? p.bias raw)

theorem Instruction.Completes.velocity?_eq {i : Instruction} {f f' : Scene σ}
    (h : i.Completes f f') (hv : f.pointer.velocity.IsCardinal) :
    i.velocity? f.pointer = some f'.pointer.velocity := by
  cases h with
  | turn t f => exact Vec.turned?_eq hv t
  | reverseIf f =>
    rw [velocity?]
    dsimp only
    split
    · exact Vec.turned?_eq hv .half
    · rfl
  | _ => rfl

/-! ### What turns keep -/

/-- Next to the page, with a bias and a velocity as pointers have them. -/
structure Pointer.IsNear (g : Grid) (p : Pointer) : Prop where
  bias : p.bias.IsBias
  cardinal : p.velocity.IsCardinal
  pos : g.Near p.pos

theorem Pointer.IsNear.of_spawned {p : Pointer} (h : p.Spawned g) : p.IsNear g where
  bias := ⟨_, _, h.heading, rfl⟩
  cardinal := (Heading.ofGlyph?_cases h.heading).1
  pos := .of_cell (Option.isSome_of_eq_some h.cell)

theorem Pointer.IsNear.continues {p q : Pointer} (h : p.IsNear g) (hq : q.Continues p)
    (hpos : g.Near q.pos) : q.IsNear g where
  bias := by
    rw [hq.bias]
    exact h.bias
  cardinal := hq.cardinal h.cardinal
  pos := hpos

namespace Scene

variable {f f' m : Scene σ} {e : RunError} {n : Nat}

theorem Executes.isNear (h : Executes g f m) (hf : f.pointer.IsNear g) : m.pointer.IsNear g :=
  hf.continues h.continues (.of_cell h.cell_isSome)

/-- **The step after an executed cell leads next to the page.** -/
theorem Executes.staysNear (h : Executes g f m) (hf : f.pointer.IsNear g) :
    g.StaysNear m.pointer.bias m.pointer.advance.pos := by
  have hm := h.isNear hf
  exact Grid.staysNear_of_step h.cell_isSome hm.cardinal hm.bias

/-- **A turn comes to the same in words.** -/
theorem Executes.moveOn?_eq (h : Executes g f m) (hf : f.pointer.IsNear g) (hg : g.FitsWords) :
    f.pointer.moveOn? g =
      some (m.pointer.advance.pos, g.wrap m.pointer.bias m.pointer.advance.pos) := by
  have hstep := h.staysNear hf
  obtain ⟨glyph, hc, hm⟩ := h.completes
  have hv : (Instruction.ofGlyph glyph).velocity? f.pointer = some m.pointer.velocity :=
    hm.velocity?_eq hf.cardinal
  have hraw : m.pointer.pos.add? m.pointer.velocity = some m.pointer.advance.pos :=
    hstep.near.add?_eq hg
  have hw := Grid.wrap?_eq hg (h.isNear hf).bias hstep
  -- the pointer keeps its place and its bias until it moves on
  rw [h.pos_eq] at hraw
  rw [h.continues.bias] at hw ⊢
  simp only [Pointer.moveOn?, hc, hv, hraw, hw, Option.bind_eq_bind, Option.bind_some]
  rfl

theorem Moves.isNear (h : Moves g f f') (hf : f.pointer.IsNear g) : f'.pointer.IsNear g :=
  hf.continues h.continues (.of_cell h.cell_after)

/-- A stranded pointer is one step off a cell. -/
theorem Stops.isNear (h : Stops g n f e f') (hf : f.pointer.IsNear g) : f'.pointer.IsNear g := by
  refine hf.continues h.continues ?_
  cases h with
  | offGrid => exact hf.pos
  | faulted _ hfault =>
    rw [hfault.pointer_eq]
    exact hf.pos
  | stranded hm => exact (hm.staysNear hf).near

end Scene

/-! ### Sessions -/

namespace Execution

variable {program : Program} {sink : σ} {limit : Option Nat} {us : List (Execution σ)}
  {es : List RunError} {s t : Execution σ}

/-- **Every pointer of a session is next to the page.** -/
theorem Session.isNear (hp : program.Built) (h : (ofProgram program sink limit).Session es s) :
    ∀ p ∈ s.pointers, p.IsNear program.grid := by
  refine h.invariant (I := fun s => ∀ p ∈ s.pointers, p.IsNear program.grid)
    (fun p hmem => .of_spawned (hp.spawned hmem)) fun t hgrid ht => ?_
  have hg : t.grid = program.grid := hgrid
  rw [pointers_next, pass, hg]
  exact Pass.pointers_of_turns (fun _ _ hm hf => hm.isNear hf) (fun _ _ _ hs hf => hs.isNear hf) ht

/-- **Coordinates stay next to the page.**  In every state in which a session ticks, and in the one
that it comes to, all pointers are on the page or one row or column off it.  In the tick from there,
the same is true of the position to which a pointer moves on and of all that the rule of `Grid.wrap`
makes of it, and the row in which the rule continues is one of the page.  So if the number of rows
and their lengths fit in words, then all coordinates and velocities can be computed in words. -/
theorem coordinates_stay_near (hp : program.Built)
    (h : (ofProgram program sink limit).Course us t) (hs : s ∈ us ++ [t]) :
    s.grid = program.grid ∧
    (∀ p ∈ s.pointers, s.grid.Near p.pos) ∧
    (∀ k p m, s.Executes k p m →
      s.grid.Near m.pointer.advance.pos ∧
      ∀ n, s.grid.Near (s.grid.orbit m.pointer.bias m.pointer.advance.pos n) ∧
        0 ≤ s.grid.foldRow (s.grid.orbit m.pointer.bias m.pointer.advance.pos n).y ∧
        s.grid.foldRow (s.grid.orbit m.pointer.bias m.pointer.advance.pos n).y < s.grid.height) ∧
    (s.grid.FitsWords → ∀ k p m, s.Executes k p m →
      p.moveOn? s.grid =
        some (m.pointer.advance.pos, s.grid.wrap m.pointer.bias m.pointer.advance.pos)) := by
  obtain ⟨es, hsession⟩ := h.exists_session hs
  have hgrid := (hsession.placed hp).grid
  have hnear := hsession.isNear hp
  rw [← hgrid] at hnear
  have hexecutes : ∀ k p m, s.Executes k p m → p.IsNear s.grid := fun k p m hm =>
    hnear p (List.mem_of_getElem? hm.pointer)
  refine ⟨hgrid, fun p hmem => (hnear p hmem).pos, fun k p m hm => ?_, fun hg k p m hm => ?_⟩
  · have hp := hexecutes k p m hm
    have hstep := hm.executes.staysNear hp
    have horbit := hstep.orbit (hm.executes.isNear hp).bias
    exact ⟨hstep.near, fun n => ⟨(horbit n).near, s.grid.foldRow_nonneg_lt _⟩⟩
  · exact hm.executes.moveOn?_eq (hexecutes k p m hm) hg

/-- After the failed first tick of `shoal`, one pointer is off the page for good, and the other one
moves on over the end of its row and comes in at the front. -/
theorem shoal_stays_near :
    ∃ us t p m q, Program.shoal.Built ∧
      (ofProgram .shoal Transcript.empty none).Course us t ∧ t ∈ us ++ [t] ∧
      t.Executes 0 p m ∧ m.pointer.advance.pos = ⟨2, 0⟩ ∧ t.grid.Near ⟨2, 0⟩ ∧
      t.grid.FitsWords ∧ p.moveOn? t.grid = some (⟨2, 0⟩, some ⟨0, 0⟩) ∧
      t.pointers[1]? = some q ∧ q.pos = ⟨0, 2⟩ ∧ t.grid.Near ⟨0, 2⟩ := by
  have h : (ofProgram .shoal Transcript.empty none).Course _ _ := .tick .start
  have hm : Executes (ofProgram .shoal Transcript.empty none).tick.next 0 _ _ :=
    ⟨rfl, ⟨_, rfl⟩, ⟨'ᛧ', rfl, rfl⟩⟩
  have hfits : (ofProgram .shoal Transcript.empty none).tick.next.grid.FitsWords :=
    ⟨by decide, by decide⟩
  have hlast := List.mem_append_right [ofProgram .shoal Transcript.empty none]
    (List.mem_singleton_self (ofProgram .shoal Transcript.empty none).tick.next)
  obtain ⟨-, hnear, hstep, hwords⟩ := coordinates_stay_near Program.built_shoal h hlast
  exact ⟨_, _, _, _, _, Program.built_shoal, h, hlast, hm, rfl, (hstep 0 _ _ hm).1, hfits,
    hwords hfits 0 _ _ hm, rfl, rfl, hnear _ (List.mem_of_getElem? (i := 1) rfl)⟩

end Execution

end RuneGrid
