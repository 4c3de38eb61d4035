import RuneGrid.Proofs.Execution.Stranding
import RuneGrid.Proofs.Sink.Lawful

/-!
# What a failed tick leaves behind

A tick that fails at pointer `k` is the tick of the first `k` pointers, the failed turn of
pointer `k`, and nothing for the others (`Execution.StopsAt`).  A fault leaves pointer `k`
itself as it was; of what is shared it may have used up one operand, and that only if the
arithmetic failed (`Execution.FaultsAt`).  A pointer that could not land keeps what its
instruction did and stands where its velocity took it (`Execution.LostAt`).

An unset operand would be used up as well, but the stack of a session has no unset entries
(`Session.stack_isSet`).
-/

namespace RuneGrid

variable {σ : Type} [Sink σ]

/-! ### No entry of the stack is unset -/

namespace Execution

variable {program : Program} {es : List RunError} {s : Execution σ}

theorem pass_stack_isSet (h : s.stack.IsSet) : s.pass.shared.stack.IsSet :=
  Pass.shared_induction (I := fun shared => shared.stack.IsSet)
    (fun _ _ _ _ hm => hm.stack_isSet) (fun _ _ _ _ _ hf => hf.stack_isSet) h

theorem Session.stack_isSet {sink : σ} {limit : Option Nat}
    (h : (ofProgram program sink limit).Session es s) : s.stack.IsSet := by
  refine h.invariant (I := fun t => t.stack.IsSet) Stack.IsSet.initial fun t _ ht => ?_
  rw [toShared_next]
  exact pass_stack_isSet ht

/-! ### The frame -/

/-- The tick of `s` fails at pointer `k`: those before it have had their turn, as if there were no
others, and those after it are as they were. -/
structure StopsAt (s : Execution σ) (k : Nat) : Prop where
  ticks : s.tick.next.ticks = s.ticks
  reached : ∃ halted, (s.cut k).tick.result = .ok halted
  before : s.tick.next.pointers.take k = (s.cut k).tick.next.pointers
  after : s.tick.next.pointers.drop (k + 1) = s.pointers.drop (k + 1)

/-- The tick of `s` fails at pointer `k`, whose instruction faults. -/
structure FaultsAt (s : Execution σ) (k : Nat) (fault : Fault) : Prop extends s.StopsAt k where
  pointer : ∃ p, s.pointers[k]? = some p ∧ s.tick.next.pointers[k]? = some p
  transcript : s.tick.next.transcript = (s.cut k).tick.next.transcript
  stack : fault.code = .unsetRegister ∨ fault.code = .emptyStack ∨ fault.code = .noGlyph ∨
    fault.code = .refusedOutput → s.tick.next.stack = (s.cut k).tick.next.stack
  operand : fault.code = .overflow ∨ fault.code = .zeroDivisor →
    ∃ entry, (s.cut k).tick.next.stack.pop? = some (entry, s.tick.next.stack)
  halted : s.tick.next.halted = true ↔
    s.halted = true ∨ ∃ j < k, ∃ p, s.pointers[j]? = some p ∧
      (s.grid.cell p.pos).map Instruction.ofGlyph = some .finish

/-- The tick of `s` fails at pointer `k`, which has executed its cell and does not land. -/
structure LostAt (s : Execution σ) (k : Nat) (p : Pointer) (m : Scene σ) : Prop
    extends s.StopsAt k where
  executes : s.Executes k p m
  pointer : s.tick.next.pointers[k]? = some m.pointer.advance
  shared : s.tick.next.toShared = m.toShared
  off : s.grid.cell m.pointer.advance.pos = none

variable {k : Nat} {p : Pointer} {f m : Scene σ} {e : RunError} {fault : Fault}

theorem length_cut_pass (hk : s.pointers[k]? = some p) (h : (s.cut k).pass.error? = none) :
    (s.cut k).pass.pointers.length = k := by
  obtain ⟨hlt, -⟩ := List.getElem?_eq_some_iff.1 hk
  have hlen := (Pass.forall₂_of_done h).length_eq
  rw [cut, List.length_take_of_le hlt.le] at hlen
  exact hlen.symm

/-- **A failed tick, piece by piece.** -/
theorem next_of_stops (hk : s.pointers[k]? = some p) (hcut : (s.cut k).pass.error? = none)
    (hs : Scene.Stops s.grid (s.ticks + 1) ⟨(s.cut k).pass.shared, p, []⟩ e f) :
    s.StopsAt k ∧ s.tick.next.pointers[k]? = some f.pointer ∧
      s.tick.next.toShared = f.toShared := by
  have hpass := pass_of_stops hk hcut hs
  have hlen := length_cut_pass hk hcut
  have hnext : s.tick.next.pointers =
      (s.cut k).pass.pointers ++ f.pointer :: s.pointers.drop (k + 1) := by
    rw [pointers_next, hpass]
  have hres : s.tick.result = .error e := result_eq_error_iff.2 (by rw [hpass])
  refine ⟨⟨ticks_next_of_error hres, result_ok_iff.2 hcut, ?_, ?_⟩, ?_, ?_⟩
  · rw [hnext, pointers_next, List.take_left' hlen]
  · rw [hnext, List.drop_append, hlen, List.drop_of_length_le (by omega)]
    simp
  · rw [hnext, List.getElem?_append_right (by omega), hlen]
    simp
  · rw [toShared_next, hpass]

/-- A pointer that gets through stays as its move has left it. -/
theorem next_of_moves (hk : s.pointers[k]? = some p) (hcut : (s.cut k).pass.error? = none)
    (hm : Scene.Moves s.grid ⟨(s.cut k).pass.shared, p, []⟩ f) :
    s.tick.next.pointers[k]? = some f.pointer := by
  have hlen := length_cut_pass hk hcut
  rw [pointers_next, pointers_pass_of_moves hk hcut hm,
    List.getElem?_append_right (Nat.le_of_eq hlen), hlen, Nat.sub_self, List.getElem?_cons_zero]

/-- Whoever got through before pointer `k` has halted the program if it stood on an `end` cell. -/
theorem cut_halted_iff (hcut : (s.cut k).pass.error? = none) :
    (s.cut k).pass.shared.halted = true ↔
      s.halted = true ∨ ∃ j < k, ∃ p, s.pointers[j]? = some p ∧
        (s.grid.cell p.pos).map Instruction.ofGlyph = some .finish := by
  refine (Pass.halted_of_done hcut).trans (or_congr_right ?_)
  constructor
  · rintro ⟨p, hmem, hend⟩
    obtain ⟨j, hj⟩ := List.getElem?_of_mem hmem
    rw [cut, List.getElem?_take] at hj
    split at hj
    · next hlt => exact ⟨j, hlt, p, hj, hend⟩
    · cases hj
  · rintro ⟨j, hlt, p, hj, hend⟩
    refine ⟨p, List.mem_of_getElem? (i := j) ?_, hend⟩
    rw [cut, List.getElem?_take, if_pos hlt, hj]

/-- A fault that is not a refused glyph has not touched the sink. -/
theorem transcript_of_faults [LawfulSink σ] {i : Instruction} {f f' : Scene σ}
    (h : i.Faults f fault f') : Sink.transcript f'.sink = Sink.transcript f.sink := by
  cases h with
  | refused _ hs => exact LawfulSink.transcript_of_refused hs
  | _ => rfl

theorem code_eq_overflow_or_zeroDivisor :
    fault.code = .overflow ∨ fault.code = .zeroDivisor ↔
      fault = .overflow ∨ fault = .zeroDivisor := by
  cases fault <;> simp [Fault.code]

theorem faultsAt_of_stops [LawfulSink σ] (hset : s.stack.IsSet) {glyph : Char}
    (hk : s.pointers[k]? = some p) (hcut : (s.cut k).pass.error? = none)
    (hc : s.grid.cell p.pos = some glyph)
    (hf : (Instruction.ofGlyph glyph).Faults
      (Scene.note (.command p.id p.pos glyph) ⟨(s.cut k).pass.shared, p, []⟩) fault f) :
    s.FaultsAt k fault := by
  obtain ⟨hstop, hpointer, hshared⟩ := next_of_stops hk hcut (.faulted hc hf)
  have hcutset : (s.cut k).pass.shared.stack.IsSet := pass_stack_isSet (s := s.cut k) hset
  refine ⟨hstop, ⟨p, hk, ?_⟩, ?_, ?_, ?_, ?_⟩
  · rw [hpointer, hf.pointer_eq]
    rfl
  · rw [transcript, transcript, hshared, toShared_next]
    exact transcript_of_faults hf
  · intro hcode
    rw [hshared, toShared_next]
    refine hf.stack_eq hcutset ?_ ?_ <;> rintro rfl <;> simp [Fault.code] at hcode
  · intro hcode
    rw [hshared, toShared_next]
    exact hf.pop_of_arithmetic (code_eq_overflow_or_zeroDivisor.1 hcode)
  · rw [hshared, hf.halted_eq]
    exact cut_halted_iff hcut

theorem lostAt_of_stops (hk : s.pointers[k]? = some p) (hcut : (s.cut k).pass.error? = none)
    (hm : Scene.Executes s.grid ⟨(s.cut k).pass.shared, p, []⟩ m)
    (hw : s.grid.wrap m.pointer.bias m.pointer.advance.pos = none) : s.LostAt k p m := by
  obtain ⟨hstop, hpointer, hshared⟩ := next_of_stops hk hcut (.stranded hm hw)
  rw [← toShared_next] at hm
  exact ⟨hstop, ⟨hk, result_ok_iff.2 hcut, hm⟩, hpointer, hshared, Grid.cell_eq_none_of_wrap hw⟩

/-- **The frame of a failed tick.**  In every state of a session, a tick that fails by a fault
leaves the pointer at fault and those after it alone, lets those before it have their turn as in a
tick of their own, and uses up one operand if and only if the arithmetic failed.  A pointer that has
executed its cell and does not land keeps what its instruction did. -/
theorem failed_tick_frame [LawfulSink σ] (hp : program.Built) {sink : σ} {limit : Option Nat}
    (h : (ofProgram program sink limit).Session es s) :
    (∀ fault site n, s.tick.result = .error (.faulted fault site n) →
      s.FaultsAt site.pointer fault) ∧
    ∀ site n p, s.tick.result = .error (.offGrid site n) → s.pointers[site.pointer]? = some p →
      (s.grid.cell p.pos).isSome →
      ∃ m, s.LostAt site.pointer p m ∧ site.pos = m.pointer.advance.pos := by
  have hs := h.placed hp
  refine ⟨fun fault site n he => ?_, fun site n p he hk hcell => ?_⟩
  · obtain ⟨k, p, f, hk, hcut, hstop⟩ := exists_cut he
    have hid := hs.id_eq hp hk
    cases hstop with
    | faulted hc hf =>
      rw [hid]
      exact faultsAt_of_stops h.stack_isSet hk hcut hc hf
  · obtain ⟨k, q, f, hq, hcut, hstop⟩ := exists_cut he
    -- the pointer at fault is the one that the error names
    obtain ⟨-, hid⟩ := hstop.strands_iff.1 ⟨rfl, site, rfl, rfl⟩
    rw [hid, hs.id_eq hp hq] at hk ⊢
    obtain rfl : q = p := Option.some.inj (hq.symm.trans hk)
    cases hstop with
    | offGrid hc =>
      rw [hc] at hcell
      cases hcell
    | stranded hm hw => exact ⟨_, lostAt_of_stops hq hcut hm hw, rfl⟩

/-- The second tick of `scarce` fails at the last pointer, when the program has halted and the stack
is empty.  The first tick of `gap` leaves its pointer off the grid. -/
theorem frame_of_scarce_and_gap :
    (∃ s, Program.scarce.Built ∧ (ofProgram .scarce Transcript.empty none).Session [] s ∧
      s.tick.result = .error (.faulted .emptyStack ⟨2, ⟨2, 1⟩, some 'ᛟ'⟩ 2) ∧
      s.FaultsAt 2 .emptyStack ∧ s.tick.next.halted = true ∧ s.tick.next.stack = ⟨[]⟩) ∧
    ∃ s, Program.gap.Built ∧ (ofProgram .gap Transcript.empty none).Session [] s ∧
      s.tick.result = .error (.offGrid ⟨0, ⟨0, 1⟩, none⟩ 1) ∧ ∃ p m, s.LostAt 0 p m := by
  constructor
  · have h : (ofProgram .scarce Transcript.empty none).Session [] _ := .tick .start
    have hf := (failed_tick_frame Program.built_scarce h).1 .emptyStack ⟨2, ⟨2, 1⟩, some 'ᛟ'⟩ 2 rfl
    refine ⟨_, Program.built_scarce, h, rfl, hf, ?_, ?_⟩
    · exact hf.halted.2 (Or.inr ⟨0, Nat.two_pos, _, rfl, rfl⟩)
    · rw [hf.stack (Or.inr (Or.inl rfl))]
      rfl
  · have h : (ofProgram .gap Transcript.empty none).Session [] _ := .start
    obtain ⟨m, hm, -⟩ :=
      (failed_tick_frame Program.built_gap h).2 ⟨0, ⟨0, 1⟩, none⟩ 1 _ rfl rfl rfl
    exact ⟨_, Program.built_gap, h, rfl, _, m, hm⟩

end Execution

end RuneGrid
