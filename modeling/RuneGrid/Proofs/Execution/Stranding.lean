import RuneGrid.Proofs.Execution.Position
import RuneGrid.Proofs.Grid.Stranding

/-!
# When a pointer is stranded

A pointer that has executed its cell moves on and lands, unless its bias has no vertical
shift and the row in which it continues is empty.  `Executes.strands_iff` says that the
tick reports it off the grid if and only if `Grid.wrap` finds no cell for it, so the
geometry of `Grid.wrap_eq_none_iff_of_step` decides.

`stranded_iff_flat_and_empty` states it for every state of a session.  It follows that
row-sheared pointers are never stranded, that nobody is on a grid without empty rows, and
that no horizontal move strands a pointer.
-/

namespace RuneGrid

/-- Pointer `k` is not row-sheared, and the grid has an empty row. -/
def Program.CanStrand (program : Program) (k : Nat) : Prop :=
  (∃ q, program.pointers[k]? = some q ∧ q.symbol ≠ 'ᛊ') ∧
    ∃ y < program.grid.height, program.grid.rowLength y = 0

namespace Execution

variable {σ : Type} [Sink σ] {program : Program} {es : List RunError} {s : Execution σ}
  {k : Nat} {p : Pointer} {m : Scene σ}

/-- In the tick of `s`, pointer `k` gets its turn and executes its cell without a fault; `m` is how
things stand when it moves on. -/
structure Executes (s : Execution σ) (k : Nat) (p : Pointer) (m : Scene σ) : Prop where
  pointer : s.pointers[k]? = some p
  reached : ∃ halted, (s.cut k).tick.result = .ok halted
  executes : Scene.Executes s.grid ⟨(s.cut k).tick.next.toShared, p, []⟩ m

/-- The tick reports pointer `k` off the grid. -/
def Strands (s : Execution σ) (k : Nat) : Prop :=
  ∃ e, s.tick.result = .error e ∧ e.Strands k

theorem Executes.stops (h : s.Executes k p m)
    (hw : s.grid.wrap m.pointer.bias m.pointer.advance.pos = none) :
    Scene.Stops s.grid (s.ticks + 1) ⟨(s.cut k).pass.shared, p, []⟩
      (.offGrid ⟨m.pointer.id, m.pointer.advance.pos, none⟩ (s.ticks + 1))
      { m with pointer := m.pointer.advance } := by
  have hm := h.executes
  rw [toShared_next] at hm
  exact .stranded hm hw

/-- **The tick reports a pointer that has executed its cell if and only if it has nowhere to
land.** -/
theorem Executes.strands_iff (hp : program.Built) (hs : Placed program es s)
    (h : s.Executes k p m) :
    s.Strands k ↔ s.grid.wrap m.pointer.bias m.pointer.advance.pos = none := by
  constructor
  · rintro ⟨e, he, hst⟩
    obtain ⟨j, q, f, hq, -, hstop⟩ := exists_cut he
    -- the pointer at fault is the one that the error names
    obtain rfl : k = j := (hstop.strands_iff.1 hst).2.trans (hs.id_eq hp hq)
    obtain rfl : p = q := Option.some.inj (h.pointer.symm.trans hq)
    by_contra hw
    obtain ⟨pos, hpos⟩ := Option.ne_none_iff_exists'.1 hw
    have hm := h.executes
    rw [toShared_next] at hm
    have hmove : Scene.step s.grid (s.ticks + 1) _ = .ok () _ := (Scene.Moves.intro hm hpos).step_eq
    rw [hstop.step_eq] at hmove
    cases hmove
  · intro hw
    have hstop := h.stops hw
    refine ⟨_, ?_, hstop.strands_iff.2 ⟨rfl, (hs.id_eq hp h.pointer).symm⟩⟩
    rw [result_eq_error_iff, pass_of_stops h.pointer (result_ok_iff.1 h.reached) hstop]

/-- The position to which a pointer moves on is one step away from its cell. -/
theorem Executes.wrap_eq_none_iff (hp : program.Built) (hs : Placed program es s)
    (h : s.Executes k p m) :
    s.grid.wrap m.pointer.bias m.pointer.advance.pos = none ↔
      p.bias.y = 0 ∧ s.grid.rowLength (s.grid.row m.pointer.advance.pos) = 0 := by
  have hcont := h.executes.continues
  have hbias : m.pointer.bias = p.bias := hcont.bias
  rw [← hbias]
  refine Grid.wrap_eq_none_iff_of_step h.executes.cell_isSome
    (hcont.cardinal (hs.cardinal hp h.pointer)) ?_
  rw [hbias]
  exact (hs.bias_cases hp h.pointer).imp And.right And.right

/-- **A tick reports only pointers that can be stranded**, if the errors before it did. -/
theorem Placed.canStrand_of_strands (hp : program.Built) (hs : Placed program es s)
    (hold : ∀ e ∈ es, ∀ k, e.Strands k → program.CanStrand k) (hst : s.Strands k) :
    program.CanStrand k := by
  obtain ⟨e, he, hst⟩ := hst
  obtain ⟨j, p, f, hj, hcut, hstop⟩ := exists_cut he
  obtain rfl : k = j := (hstop.strands_iff.1 hst).2.trans (hs.id_eq hp hj)
  cases hstop with
  | offGrid hc =>
    -- the pointer has been off the grid before
    by_contra hno
    have hon := (hs.cell_isSome_iff hp hj).2 fun e' he' hst' => hno (hold e' he' k hst')
    rw [hc] at hon
    cases hon
  | faulted => exact absurd hst.1 (Fault.code_ne_offGrid _)
  | stranded hm hw =>
    rw [← toShared_next] at hm
    have hex : s.Executes k p _ := ⟨hj, result_ok_iff.2 hcut, hm⟩
    obtain ⟨hb, hrow⟩ := (hex.wrap_eq_none_iff hp hs).1 hw
    rw [hs.grid] at hrow
    exact ⟨hs.symbol_ne_of_flat hp hj hb, _, Grid.row_lt _ _, hrow⟩

/-- Every error of a session that reports a pointer off the grid reports one that can be
stranded. -/
theorem Session.canStrand (hp : program.Built) {sink : σ} {limit : Option Nat}
    (h : (ofProgram program sink limit).Session es s) :
    ∀ e ∈ es, ∀ k, e.Strands k → program.CanStrand k := by
  suffices hall : Placed program es s ∧ ∀ e ∈ es, ∀ k, e.Strands k → program.CanStrand k from hall.2
  refine h.induction
    (motive := fun es t => Placed program es t ∧ ∀ e ∈ es, ∀ k, e.Strands k → program.CanStrand k)
    ⟨.start hp sink limit, nofun⟩ (fun es t ih => ?_) (fun es t n ih => ?_)
  · obtain ⟨hs, hold⟩ := ih
    refine ⟨hs.tick hp, List.forall_mem_append.2 ⟨hold, fun e he k hst => ?_⟩⟩
    exact hs.canStrand_of_strands hp hold ⟨e, mem_errorsOf.1 he, hst⟩
  · obtain ⟨hs, hold⟩ := ih
    refine ⟨hs.spent n, List.forall_mem_append.2 ⟨hold, ?_⟩⟩
    rw [List.forall_mem_singleton]
    exact fun k hst => absurd hst RunError.not_strands_outOfTicks

/-- **When a pointer is stranded.**  In every state of a session, the tick reports a pointer off the
grid that has executed its cell if and only if its bias has no vertical shift and the row in which
it continues is empty.  A row-sheared pointer is never reported, nor is any pointer on a grid
without empty rows, nor one that has moved horizontally. -/
theorem stranded_iff_flat_and_empty (hp : program.Built) {sink : σ} {limit : Option Nat}
    (h : (ofProgram program sink limit).Session es s) :
    (∀ k p m, s.Executes k p m →
      (s.Strands k ↔
        p.bias.y = 0 ∧ s.grid.rowLength (s.grid.row m.pointer.advance.pos) = 0) ∧
      (p.bias.y = 0 ↔ p.symbol = 'ᛌ' ∨ p.symbol = 'ᛍ' ∨ p.symbol = 'ᛋ') ∧
      (m.pointer.velocity.y = 0 → ¬ s.Strands k)) ∧
    ∀ e ∈ es, ∀ k, e.Strands k → program.CanStrand k := by
  have hs := h.placed hp
  refine ⟨fun k p m hm => ?_, h.canStrand hp⟩
  have hiff := (hm.strands_iff hp hs).trans (hm.wrap_eq_none_iff hp hs)
  refine ⟨hiff, ?_, fun hv hst => ?_⟩
  · rcases hs.bias_cases hp hm.pointer with ⟨hsym, hb⟩ | ⟨hsym, hb⟩
    · rw [hsym, hb]
      decide
    · exact iff_of_true hb hsym
  · exact Grid.rowLength_row_of_horizontal hm.executes.cell_isSome hv (hiff.1 hst).2

/-- The pointer of `gap` is stranded in its first tick. -/
theorem gap_strands_pointer :
    Program.gap.Built ∧ ∃ s, (ofProgram .gap Transcript.empty none).Session [] s ∧
      ∃ p m, s.Executes 0 p m ∧ s.Strands 0 := by
  have h : (ofProgram .gap Transcript.empty none).Session [] _ := .start
  have hm : (ofProgram .gap Transcript.empty none).Executes 0 _ _ :=
    ⟨rfl, ⟨_, rfl⟩, ⟨'ᛍ', rfl, rfl⟩⟩
  obtain ⟨hiff, -⟩ := (stranded_iff_flat_and_empty Program.built_gap h).1 _ _ _ hm
  exact ⟨Program.built_gap, _, h, _, _, hm, hiff.2 ⟨rfl, rfl⟩⟩

end Execution

end RuneGrid
