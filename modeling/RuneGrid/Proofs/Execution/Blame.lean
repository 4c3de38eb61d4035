import RuneGrid.Proofs.Execution.Frame

/-!
# Whom an error blames

A turn fails at three points: before the pointer executes its cell, while it does, and when
it has moved on and does not land.  Each makes its own site.  `RunError.Blames` says what
all of them agree on, of the pointer as the error leaves it: the site holds its number, its
position and the glyph of the cell under it, and an instruction that stands there can come
to such an error (`Scene.Stops.blames`).

`errors_name_culprit` draws the conclusion for the ticks of a session.
-/

namespace RuneGrid

variable {σ : Type} [Sink σ] {g : Grid} {n : Nat} {p : Pointer} {e : RunError}

/-- The error of tick `n` describes the pointer `p` on the grid `g`. -/
structure RunError.Blames (e : RunError) (g : Grid) (n : Nat) (p : Pointer) : Prop where
  site : e.site? = some ⟨p.id, p.pos, g.cell p.pos⟩
  tick : e.tick = n
  off : g.cell p.pos = none ↔ e.code = .offGrid
  quoted : e.code = .noGlyph → ∃ v, p.register = some v ∧
    e.message = s!"{ErrorCode.noGlyph.message} ({v.toInt})"
  raised : ∀ c, g.cell p.pos = some c → e.code ∈ (Instruction.ofGlyph c).codes

/-- A pointer off the grid cannot be blamed for what it executes. -/
theorem RunError.Blames.of_off (h : g.cell p.pos = none) :
    (offGrid ⟨p.id, p.pos, none⟩ n).Blames g n p := by
  refine ⟨by rw [h]; rfl, rfl, iff_of_true h rfl, nofun, fun c hc => ?_⟩
  rw [h] at hc
  cases hc

/-- **A failed turn blames the pointer as it leaves it.** -/
theorem Scene.Stops.blames {f f' : Scene σ} (h : Stops g n f e f') : e.Blames g n f'.pointer := by
  cases h with
  | offGrid hc => exact .of_off hc
  | @faulted _ glyph fault hc hf =>
    rw [hf.pointer_eq]
    show RunError.Blames _ g n f.pointer
    refine ⟨by rw [hc]; rfl, rfl, ?_, ?_, ?_⟩
    · refine iff_of_false (fun hn => ?_) (Fault.code_ne_offGrid fault)
      rw [hn] at hc
      cases hc
    · intro hcode
      cases fault <;> cases hcode
      exact ⟨_, hf.register_of_noGlyph, rfl⟩
    · intro c hc'
      obtain rfl : glyph = c := Option.some.inj (hc.symm.trans hc')
      exact hf.code_mem_codes
  | stranded hm hw => exact .of_off (Grid.cell_eq_none_of_wrap hw)

namespace Execution

variable {program : Program} {es : List RunError} {s : Execution σ}

/-- **Errors name their culprit.**  In every state of a session, the error of a failed tick blames a
pointer as it stands after the tick, and the tick that would have been next. -/
theorem errors_name_culprit (hp : program.Built) {sink : σ} {limit : Option Nat}
    (h : (ofProgram program sink limit).Session es s) (he : s.tick.result = .error e) :
    ∃ k < s.pointers.length, ∃ p, s.tick.next.pointers[k]? = some p ∧ p.id = k ∧
      e.Blames s.tick.next.grid (s.tick.next.ticks + 1) p := by
  obtain ⟨k, p, f, hk, hcut, hstop⟩ := exists_cut he
  obtain ⟨-, hpointer, -⟩ := next_of_stops hk hcut hstop
  refine ⟨k, (List.getElem?_eq_some_iff.1 hk).1, f.pointer, hpointer, ?_, ?_⟩
  · exact hstop.continues.id.trans ((h.placed hp).id_eq hp hk)
  · rw [grid_next, ticks_next_of_error he]
    exact hstop.blames

/-- The second tick of `scarce` blames the last pointer for its addition, and the pointer of `gap`
is blamed again for being off the grid. -/
theorem culprits_of_scarce_and_gap :
    (∃ s e, Program.scarce.Built ∧ (ofProgram .scarce Transcript.empty none).Session [] s ∧
      s.tick.result = .error e ∧ e.code = .emptyStack ∧
      ∃ p, s.tick.next.pointers[2]? = some p ∧ p.id = 2 ∧ e.Blames Program.scarce.grid 2 p) ∧
    ∃ es s e, Program.gap.Built ∧ (ofProgram .gap Transcript.empty none).Session es s ∧
      es ≠ [] ∧ s.tick.result = .error e ∧ e.code = .offGrid ∧
      ∃ p, s.tick.next.pointers[0]? = some p ∧ e.Blames Program.gap.grid 1 p := by
  constructor
  · have h : (ofProgram .scarce Transcript.empty none).Session [] _ := .tick .start
    have he : (ofProgram .scarce Transcript.empty none).tick.next.tick.result =
        .error (.faulted .emptyStack ⟨2, ⟨2, 1⟩, some 'ᛟ'⟩ 2) := rfl
    obtain ⟨k, -, p, hk, hid, hb⟩ := errors_name_culprit Program.built_scarce h he
    obtain rfl : k = 2 := by
      have := hb.site
      simp [RunError.site?] at this
      omega
    exact ⟨_, _, Program.built_scarce, h, he, rfl, p, hk, hid, hb⟩
  · have h : (ofProgram .gap Transcript.empty none).Session _ _ := .tick .start
    have he : (ofProgram .gap Transcript.empty none).tick.next.tick.result =
        .error (.offGrid ⟨0, ⟨0, 1⟩, none⟩ 1) := rfl
    obtain ⟨k, hlt, p, hk, -, hb⟩ := errors_name_culprit Program.built_gap h he
    obtain rfl : k = 0 := Nat.lt_one_iff.1 hlt
    exact ⟨_, _, _, Program.built_gap, h, nofun, he, rfl, p, hk, hb⟩

end Execution

end RuneGrid
