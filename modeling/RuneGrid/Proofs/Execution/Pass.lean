import Mathlib.Data.List.Forall2
import RuneGrid.Execution.Basic
import RuneGrid.Proofs.Grid.Landing
import RuneGrid.Proofs.Instruction.Effect

/-!
# One pass over the pointers

What one pointer can do in its turn is listed by `Scene.Moves` and `Scene.Stops`
(`moves_or_stops`).  A pass that gets through is a list of moves, `Pass.forall₂_of_done`.
A pass that does not is cut in three by `Pass.exists_stop`: the pointers before the one at
fault, which got through by themselves, the one at fault, and those after it, which are as
they were.
-/

namespace RuneGrid

variable {σ : Type} [Sink σ] {g : Grid} {tick : Nat}

theorem Fault.code_ne_offGrid (fault : Fault) : fault.code ≠ .offGrid := by
  cases fault <;> exact nofun

/-! ### The turn of one pointer -/

namespace Scene

variable {f f' m : Scene σ} {e : RunError}

theorem step_apply (g : Grid) (tick : Nat) (f : Scene σ) :
    step g tick f = match g.cell f.pointer.pos with
      | none => .error (.offGrid ⟨f.pointer.id, f.pointer.pos, none⟩ tick) f
      | some glyph =>
        match (Instruction.ofGlyph glyph).effect
            (f.note (.command f.pointer.id f.pointer.pos glyph)) with
        | .error fault m => .error (.faulted fault ⟨f.pointer.id, f.pointer.pos, some glyph⟩ tick) m
        | .ok () m =>
          match g.wrap m.pointer.bias m.pointer.advance.pos with
          | none => .error (.offGrid ⟨m.pointer.id, m.pointer.advance.pos, none⟩ tick)
              { m with pointer := m.pointer.advance }
          | some pos => .ok () { m with pointer := { m.pointer with pos } } := by
  show (step g tick).run f = _
  rw [step, EStateM.run_bind, EStateM.run_get]
  dsimp only
  cases g.cell f.pointer.pos with
  | none => rfl
  | some glyph =>
    dsimp only
    rw [EStateM.run_bind, EStateM.run_modify]
    dsimp only
    rw [EStateM.run_bind, EStateM.run_adaptExcept, EStateM.run]
    cases (Instruction.ofGlyph glyph).effect
      (f.note (.command f.pointer.id f.pointer.pos glyph)) with
    | error fault m => rfl
    | ok _ m =>
      dsimp only
      rw [EStateM.run_bind, EStateM.run_modify]
      dsimp only
      rw [EStateM.run_bind, EStateM.run_get]
      dsimp only [Pointer.advance]
      cases g.wrap m.pointer.bias (m.pointer.pos + m.pointer.velocity) <;> rfl

/-- The pointer finds a cell and executes it without a fault, which leads to `m`. -/
inductive Executes (g : Grid) (f m : Scene σ) : Prop
  | intro (glyph : Char) (cell : g.cell f.pointer.pos = some glyph)
    (effect : (Instruction.ofGlyph glyph).effect
      (f.note (.command f.pointer.id f.pointer.pos glyph)) = .ok () m)

/-- An executed cell, as an instruction that has got done. -/
theorem Executes.completes (h : Executes g f m) :
    ∃ glyph, g.cell f.pointer.pos = some glyph ∧ (Instruction.ofGlyph glyph).Completes
      (f.note (.command f.pointer.id f.pointer.pos glyph)) m := by
  obtain ⟨glyph, hc, hm⟩ := h
  exact ⟨glyph, hc, Instruction.effect_eq_ok_iff.1 hm⟩

theorem Executes.continues (h : Executes g f m) : m.pointer.Continues f.pointer := by
  obtain ⟨glyph, -, hm⟩ := h.completes
  exact hm.continues

theorem Executes.pos_eq (h : Executes g f m) : m.pointer.pos = f.pointer.pos := by
  obtain ⟨glyph, -, hm⟩ := h.completes
  exact hm.pos_eq

/-- It is still on its cell when it has executed it. -/
theorem Executes.cell_isSome (h : Executes g f m) : (g.cell m.pointer.pos).isSome := by
  obtain ⟨glyph, hc, -⟩ := h.completes
  rw [h.pos_eq, hc]
  rfl

/-- It halts the program if the cell is an `end` cell. -/
theorem Executes.halted (h : Executes g f m) :
    m.halted = (f.halted || (g.cell f.pointer.pos).map Instruction.ofGlyph == some .finish) := by
  obtain ⟨glyph, hc, hm⟩ := h.completes
  rw [hc]
  exact hm.halted

/-- The pointer executes its cell and lands on another one. -/
inductive Moves (g : Grid) : Scene σ → Scene σ → Prop
  | intro {f m : Scene σ} {pos : Vec} (executes : Executes g f m)
    (lands : g.wrap m.pointer.bias m.pointer.advance.pos = some pos) :
    Moves g f { m with pointer := { m.pointer with pos } }

/-- The ways in which the turn of a pointer fails. -/
inductive Stops (g : Grid) (tick : Nat) : Scene σ → RunError → Scene σ → Prop
  /-- There is no cell under the pointer. -/
  | offGrid {f : Scene σ} (cell : g.cell f.pointer.pos = none) :
    Stops g tick f (.offGrid ⟨f.pointer.id, f.pointer.pos, none⟩ tick) f
  | faulted {f f' : Scene σ} {glyph : Char} {fault : Fault}
    (cell : g.cell f.pointer.pos = some glyph)
    (faults : (Instruction.ofGlyph glyph).Faults
      (f.note (.command f.pointer.id f.pointer.pos glyph)) fault f') :
    Stops g tick f (.faulted fault ⟨f.pointer.id, f.pointer.pos, some glyph⟩ tick) f'
  /-- The pointer has executed its cell and moved off the page for good. -/
  | stranded {f m : Scene σ} (executes : Executes g f m)
    (lost : g.wrap m.pointer.bias m.pointer.advance.pos = none) :
    Stops g tick f (.offGrid ⟨m.pointer.id, m.pointer.advance.pos, none⟩ tick)
      { m with pointer := m.pointer.advance }

theorem Moves.step_eq (h : Moves g f f') : step g tick f = .ok () f' := by
  obtain ⟨⟨glyph, hc, hm⟩, hw⟩ := h
  simp only [step_apply, hc, hm, hw]

theorem Stops.step_eq (h : Stops g tick f e f') : step g tick f = .error e f' := by
  cases h with
  | offGrid hc => simp only [step_apply, hc]
  | faulted hc hf => simp only [step_apply, hc, hf.effect_eq]
  | stranded hm hw =>
    obtain ⟨glyph, hc, hm⟩ := hm
    simp only [step_apply, hc, hm, hw]

/-- **A pointer moves or stops in one of the listed ways.** -/
theorem moves_or_stops (g : Grid) (tick : Nat) (f : Scene σ) :
    (∃ f', Moves g f f') ∨ ∃ e f', Stops g tick f e f' := by
  cases hc : g.cell f.pointer.pos with
  | none => exact Or.inr ⟨_, _, .offGrid hc⟩
  | some glyph =>
    rcases (Instruction.ofGlyph glyph).completes_or_faults
      (f.note (.command f.pointer.id f.pointer.pos glyph)) with ⟨m, hm⟩ | ⟨fault, m, hm⟩
    · cases hw : g.wrap m.pointer.bias m.pointer.advance.pos with
      | none => exact Or.inr ⟨_, _, .stranded ⟨glyph, hc, hm.effect_eq⟩ hw⟩
      | some pos => exact Or.inl ⟨_, .intro ⟨glyph, hc, hm.effect_eq⟩ hw⟩
    · exact Or.inr ⟨_, _, .faulted hc hm⟩

/-- A pointer that has moved is the same one on another cell. -/
theorem Moves.continues (h : Moves g f f') : f'.pointer.Continues f.pointer := by
  obtain ⟨hm, -⟩ := h
  exact hm.continues.moved _

theorem Moves.cell_before (h : Moves g f f') : (g.cell f.pointer.pos).isSome := by
  obtain ⟨⟨glyph, hc, -⟩, -⟩ := h
  rw [hc]
  rfl

theorem Moves.cell_after (h : Moves g f f') : (g.cell f'.pointer.pos).isSome := by
  obtain ⟨-, hw⟩ := h
  exact Grid.cell_isSome_of_wrap hw

/-- A move halts the program if the cell is an `end` cell. -/
theorem Moves.halted (h : Moves g f f') :
    f'.halted = (f.halted || (g.cell f.pointer.pos).map Instruction.ofGlyph == some .finish) := by
  obtain ⟨hm, -⟩ := h
  exact hm.halted

theorem Stops.continues (h : Stops g tick f e f') : f'.pointer.Continues f.pointer := by
  cases h with
  | offGrid => exact .refl _
  | faulted _ hf =>
    rw [hf.pointer_eq]
    exact .refl _
  | stranded hm => exact hm.continues.moved _

/-- A turn that fails halts the program all the same if the cell is an `end` cell. -/
theorem Stops.halted (h : Stops g tick f e f') :
    f'.halted = (f.halted || (g.cell f.pointer.pos).map Instruction.ofGlyph == some .finish) := by
  cases h with
  | offGrid hc => simp [hc]
  | @faulted _ glyph _ hc hf =>
    have hne : Instruction.ofGlyph glyph ≠ .finish := by
      intro hend
      rw [hend] at hf
      cases hf
    rw [hf.halted_eq, hc]
    simp [note, hne]
  | stranded hm => exact hm.halted

/-- Every error of a turn names the pointer whose turn it is. -/
theorem Stops.site (h : Stops g tick f e f') :
    ∃ site, e.site? = some site ∧ site.pointer = f.pointer.id := by
  cases h with
  | offGrid => exact ⟨_, rfl, rfl⟩
  | faulted => exact ⟨_, rfl, rfl⟩
  | stranded hm => exact ⟨_, rfl, hm.continues.id⟩

/-- The turn leaves the pointer off the page if and only if its error says so. -/
theorem Stops.cell_isSome_iff (h : Stops g tick f e f') :
    (g.cell f'.pointer.pos).isSome ↔ (g.cell f.pointer.pos).isSome ∧ e.code ≠ .offGrid := by
  cases h with
  | offGrid hc => simp [hc]
  | faulted hc hf =>
    rw [hf.pointer_eq]
    exact (and_iff_left (Fault.code_ne_offGrid _)).symm
  | stranded hm hw => simp [RunError.code, Grid.cell_eq_none_of_wrap hw]

/-- A pointer on a cell does not fail before it has announced its command. -/
theorem Stops.command_mem (h : Stops g tick f e f') (hc : (g.cell f.pointer.pos).isSome) :
    ∃ glyph, g.cell f.pointer.pos = some glyph ∧
      .command f.pointer.id f.pointer.pos glyph ∈ f'.events := by
  have hnote : ∀ glyph, .command f.pointer.id f.pointer.pos glyph ∈
      (f.note (.command f.pointer.id f.pointer.pos glyph)).events := by
    intro glyph
    simp [note]
  cases h with
  | offGrid hn =>
    rw [hn] at hc
    cases hc
  | faulted hc hf => exact ⟨_, hc, hf.events_prefix.subset (hnote _)⟩
  | stranded hm =>
    obtain ⟨glyph, hc, hm⟩ := hm.completes
    exact ⟨glyph, hc, hm.events_prefix.subset (hnote _)⟩

end Scene

/-! ### The pass -/

namespace Pass

variable {ps pre post : List Pointer} {p : Pointer} {shared : Shared σ} {f : Scene σ}
  {e : RunError}

theorem run_cons_of_moves (h : Scene.Moves g ⟨shared, p, []⟩ f) :
    run g tick (p :: ps) shared =
      { run g tick ps f.toShared with
        pointers := f.pointer :: (run g tick ps f.toShared).pointers
        events := f.events ++ (run g tick ps f.toShared).events } := by
  rw [run, h.step_eq]

theorem run_cons_of_stops (h : Scene.Stops g tick ⟨shared, p, []⟩ e f) :
    run g tick (p :: ps) shared = ⟨f.pointer :: ps, f.toShared, f.events, some e⟩ := by
  rw [run, h.step_eq]

/-- A pass goes on where the pass over the first pointers got through. -/
theorem run_append_of_done (h : (run g tick pre shared).error? = none) :
    run g tick (pre ++ post) shared =
      { run g tick post (run g tick pre shared).shared with
        pointers := (run g tick pre shared).pointers ++
          (run g tick post (run g tick pre shared).shared).pointers
        events := (run g tick pre shared).events ++
          (run g tick post (run g tick pre shared).shared).events } := by
  induction pre generalizing shared with
  | nil => rfl
  | cons p ps ih =>
    rcases Scene.moves_or_stops g tick ⟨shared, p, []⟩ with ⟨m, hm⟩ | ⟨e, m, hm⟩
    · rw [run_cons_of_moves hm] at h
      rw [List.cons_append, run_cons_of_moves hm, run_cons_of_moves hm, ih h]
      simp only [List.cons_append, List.append_assoc]
    · rw [run_cons_of_stops hm] at h
      cases h

/-- The pass stops at the first pointer that does. -/
theorem run_of_stops (h : (run g tick pre shared).error? = none)
    (hs : Scene.Stops g tick ⟨(run g tick pre shared).shared, p, []⟩ e f) :
    run g tick (pre ++ p :: post) shared =
      ⟨(run g tick pre shared).pointers ++ f.pointer :: post, f.toShared,
        (run g tick pre shared).events ++ f.events, some e⟩ := by
  rw [run_append_of_done h, run_cons_of_stops hs]

/-- **A failed pass, cut at the pointer at fault.** -/
theorem exists_stop (h : (run g tick ps shared).error? = some e) :
    ∃ pre p post f, ps = pre ++ p :: post ∧ (run g tick pre shared).error? = none ∧
      Scene.Stops g tick ⟨(run g tick pre shared).shared, p, []⟩ e f := by
  induction ps generalizing shared with
  | nil => cases h
  | cons p ps ih =>
    rcases Scene.moves_or_stops g tick ⟨shared, p, []⟩ with ⟨m, hm⟩ | ⟨e', m, hm⟩
    · rw [run_cons_of_moves hm] at h
      obtain ⟨pre, q, post, f, rfl, hpre, hf⟩ := ih h
      refine ⟨p :: pre, q, post, f, rfl, ?_, ?_⟩
      · rw [run_cons_of_moves hm]
        exact hpre
      · rw [run_cons_of_moves hm]
        exact hf
    · rw [run_cons_of_stops hm] at h
      cases h
      exact ⟨[], p, ps, m, rfl, rfl, hm⟩

/-- Whether `q` is what a move makes of `p`. -/
def Moved (g : Grid) (p q : Pointer) : Prop :=
  q.Continues p ∧ (g.cell p.pos).isSome ∧ (g.cell q.pos).isSome

/-- **In a pass that gets through, every pointer moves.** -/
theorem forall₂_of_done (h : (run g tick ps shared).error? = none) :
    List.Forall₂ (Moved g) ps (run g tick ps shared).pointers := by
  induction ps generalizing shared with
  | nil => exact .nil
  | cons p ps ih =>
    rcases Scene.moves_or_stops g tick ⟨shared, p, []⟩ with ⟨m, hm⟩ | ⟨e, m, hm⟩
    · rw [run_cons_of_moves hm] at h ⊢
      exact .cons ⟨hm.continues, hm.cell_before, hm.cell_after⟩ (ih h)
    · rw [run_cons_of_stops hm] at h
      cases h

/-- Whether there is an `end` cell under the pointer. -/
def IsOnEnd (g : Grid) (p : Pointer) : Prop :=
  (g.cell p.pos).map Instruction.ofGlyph = some .finish

/-- A pass that gets through halts the program if some pointer stood on an `end` cell. -/
theorem halted_of_done (h : (run g tick ps shared).error? = none) :
    (run g tick ps shared).shared.halted = true ↔ shared.halted = true ∨ ∃ p ∈ ps, IsOnEnd g p := by
  induction ps generalizing shared with
  | nil => simp [run]
  | cons p ps ih =>
    rcases Scene.moves_or_stops g tick ⟨shared, p, []⟩ with ⟨m, hm⟩ | ⟨e, m, hm⟩
    · rw [run_cons_of_moves hm] at h ⊢
      rw [ih h, hm.halted, Bool.or_eq_true, beq_iff_eq, or_assoc]
      simp only [List.mem_cons, exists_eq_or_imp]
      rfl
    · rw [run_cons_of_stops hm] at h
      cases h

/-- What instructions keep of the shared state, whether they get done or not, the pass keeps. -/
theorem shared_induction {I : Shared σ → Prop}
    (completes : ∀ (c : Char) (f f' : Scene σ), g.cell f.pointer.pos = some c →
      (Instruction.ofGlyph c).Completes f f' → I f.toShared → I f'.toShared)
    (faults : ∀ (c : Char) (f f' : Scene σ) (fault : Fault), g.cell f.pointer.pos = some c →
      (Instruction.ofGlyph c).Faults f fault f' → I f.toShared → I f'.toShared)
    (h : I shared) : I (run g tick ps shared).shared := by
  have hexecutes : ∀ f m : Scene σ, Scene.Executes g f m → I f.toShared → I m.toShared := by
    intro f m hm hf
    obtain ⟨c, hc, hm⟩ := hm.completes
    exact completes c (f.note _) m hc hm hf
  induction ps generalizing shared with
  | nil => exact h
  | cons p ps ih =>
    rcases Scene.moves_or_stops g tick ⟨shared, p, []⟩ with ⟨m, hm⟩ | ⟨e, m, hm⟩
    · rw [run_cons_of_moves hm]
      obtain ⟨hm, -⟩ := hm
      have hnext := hexecutes ⟨shared, p, []⟩ _ hm h
      exact ih hnext
    · rw [run_cons_of_stops hm]
      cases hm with
      | offGrid => exact h
      | faulted hc hf => exact faults _ (Scene.note _ ⟨shared, p, []⟩) _ _ hc hf h
      | stranded hm => exact hexecutes ⟨shared, p, []⟩ _ hm h

/-- What a turn keeps of its pointer, whether that moves or stops, the pass keeps of all. -/
theorem pointers_of_turns {P : Pointer → Prop}
    (moves : ∀ f f' : Scene σ, Scene.Moves g f f' → P f.pointer → P f'.pointer)
    (stops : ∀ (f f' : Scene σ) (e : RunError), Scene.Stops g tick f e f' → P f.pointer →
      P f'.pointer)
    (h : ∀ p ∈ ps, P p) : ∀ p ∈ (run g tick ps shared).pointers, P p := by
  induction ps generalizing shared with
  | nil => exact h
  | cons p ps ih =>
    obtain ⟨hp, hps⟩ := List.forall_mem_cons.1 h
    rcases Scene.moves_or_stops g tick ⟨shared, p, []⟩ with ⟨m, hm⟩ | ⟨e, m, hm⟩
    · rw [run_cons_of_moves hm]
      exact List.forall_mem_cons.2 ⟨moves _ _ hm hp, ih hps⟩
    · rw [run_cons_of_stops hm]
      exact List.forall_mem_cons.2 ⟨stops _ _ _ hm hp, hps⟩

/-- What instructions and steps keep of a pointer, the pass keeps of all. -/
theorem pointers_induction {P : Pointer → Prop}
    (completes : ∀ (c : Char) (f f' : Scene σ), g.cell f.pointer.pos = some c →
      (Instruction.ofGlyph c).Completes f f' → P f.pointer → P f'.pointer)
    (moved : ∀ (p : Pointer) (pos : Vec), P p → P { p with pos })
    (h : ∀ p ∈ ps, P p) : ∀ p ∈ (run g tick ps shared).pointers, P p := by
  have hexecutes : ∀ f m : Scene σ, Scene.Executes g f m → P f.pointer → P m.pointer := by
    intro f m hm hf
    obtain ⟨c, hc, hm⟩ := hm.completes
    exact completes c (f.note _) m hc hm hf
  refine pointers_of_turns (fun f f' hm hf => ?_) (fun f f' e hs hf => ?_) h
  · obtain ⟨hm, -⟩ := hm
    exact moved _ _ (hexecutes f _ hm hf)
  · cases hs with
    | offGrid => exact hf
    | faulted _ hfault =>
      rw [hfault.pointer_eq]
      exact hf
    | stranded hm => exact moved _ _ (hexecutes f _ hm hf)

end Pass

/-! ### The tick -/

namespace Execution

variable {s : Execution σ} {e : RunError}

/-- The pass that a tick makes. -/
def pass (s : Execution σ) : Pass σ :=
  Pass.run s.grid (s.ticks + 1) s.pointers s.toShared

theorem tick_eq (s : Execution σ) :
    s.tick = match s.pass.error? with
      | some e => ⟨{ s with toShared := s.pass.shared, pointers := s.pass.pointers }, .error e,
          s.pass.events⟩
      | none => ⟨{ s with
            toShared := s.pass.shared, pointers := s.pass.pointers, ticks := s.ticks + 1 },
          .ok s.pass.shared.halted, s.pass.events ++ [.ticked (s.ticks + 1)
            (s.pass.pointers.map (·.register)) s.pass.shared.stack.top?]⟩ := rfl

@[simp] theorem pointers_next (s : Execution σ) : s.tick.next.pointers = s.pass.pointers := by
  rw [tick_eq]
  split <;> rfl

@[simp] theorem toShared_next (s : Execution σ) : s.tick.next.toShared = s.pass.shared := by
  rw [tick_eq]
  split <;> rfl

theorem result_eq_error_iff : s.tick.result = .error e ↔ s.pass.error? = some e := by
  rw [tick_eq]
  cases s.pass.error? <;> simp

theorem result_ok_iff : (∃ halted, s.tick.result = .ok halted) ↔ s.pass.error? = none := by
  rw [tick_eq]
  cases s.pass.error? <;> simp

theorem pass_events_prefix (s : Execution σ) : s.pass.events <+: s.tick.events := by
  rw [tick_eq]
  split
  · exact List.prefix_refl _
  · exact List.prefix_append _ _

/-! ### A tick cut down to the first pointers -/

/-- The same state with the first `k` pointers only. -/
def cut (s : Execution σ) (k : Nat) : Execution σ :=
  { s with pointers := s.pointers.take k }

omit [Sink σ] in
theorem cut_succ (s : Execution σ) (k : Nat) : s.cut (k + 1) =
    { s.cut k with pointers := (s.cut k).pointers ++ s.pointers[k]?.toList } := by
  rw [cut, List.take_add_one]
  rfl

omit [Sink σ] in
/-- All pointers together make the whole pass. -/
theorem cut_length (s : Execution σ) : s.cut s.pointers.length = s := by
  rw [cut, List.take_length]

variable {k : Nat} {p : Pointer} {f : Scene σ}

theorem eq_take_append_cons_drop {α : Type} {l : List α} {a : α} (h : l[k]? = some a) :
    l = l.take k ++ a :: l.drop (k + 1) := by
  obtain ⟨hk, rfl⟩ := List.getElem?_eq_some_iff.1 h
  rw [← List.drop_eq_getElem_cons hk, List.take_append_drop]

/-- If the first `k` pointers get through and the next one stops, then so does the tick. -/
theorem pass_of_stops (hp : s.pointers[k]? = some p) (hk : (s.cut k).pass.error? = none)
    (hs : Scene.Stops s.grid (s.ticks + 1) ⟨(s.cut k).pass.shared, p, []⟩ e f) :
    s.pass = ⟨(s.cut k).pass.pointers ++ f.pointer :: s.pointers.drop (k + 1), f.toShared,
      (s.cut k).pass.events ++ f.events, some e⟩ := by
  have hrun : Pass.run s.grid (s.ticks + 1) (s.pointers.take k ++ p :: s.pointers.drop (k + 1))
      s.toShared = _ := Pass.run_of_stops hk hs
  rw [← eq_take_append_cons_drop hp] at hrun
  exact hrun

/-- If the first `k` pointers get through and so does the next one, then it stays as its move
has left it. -/
theorem pointers_pass_of_moves (hp : s.pointers[k]? = some p) (hk : (s.cut k).pass.error? = none)
    (hm : Scene.Moves s.grid ⟨(s.cut k).pass.shared, p, []⟩ f) :
    s.pass.pointers = (s.cut k).pass.pointers ++ f.pointer ::
      (Pass.run s.grid (s.ticks + 1) (s.pointers.drop (k + 1)) f.toShared).pointers := by
  have hrun : Pass.run s.grid (s.ticks + 1) (s.pointers.take k ++ p :: s.pointers.drop (k + 1))
      s.toShared = _ := Pass.run_append_of_done hk
  rw [← eq_take_append_cons_drop hp] at hrun
  have hrest : Pass.run s.grid (s.ticks + 1) (p :: s.pointers.drop (k + 1))
      (s.cut k).pass.shared = _ := Pass.run_cons_of_moves hm
  have hpointers := congrArg Pass.pointers hrun
  exact hpointers.trans (congrArg (_ ++ ·) (congrArg Pass.pointers hrest))

/-- **A failed tick, cut at the pointer at fault.** -/
theorem exists_cut (h : s.tick.result = .error e) :
    ∃ k p f, s.pointers[k]? = some p ∧ (s.cut k).pass.error? = none ∧
      Scene.Stops s.grid (s.ticks + 1) ⟨(s.cut k).pass.shared, p, []⟩ e f := by
  obtain ⟨pre, p, post, f, hsplit, hpre, hs⟩ := Pass.exists_stop (result_eq_error_iff.1 h)
  have hcut : s.pointers.take pre.length = pre := by
    rw [hsplit, List.take_left]
  refine ⟨pre.length, p, f, ?_, ?_, ?_⟩
  · rw [hsplit]
    simp
  · rw [pass, cut, hcut]
    exact hpre
  · rw [pass, cut, hcut]
    exact hs

end Execution

end RuneGrid
