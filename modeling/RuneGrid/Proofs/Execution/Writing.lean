import RuneGrid.Proofs.Execution.Isolation
import RuneGrid.Proofs.Execution.Observing

/-!
# What is written is what is seen to be written

The transcript of the sink grows by the glyphs that an observer is told about, in the same order.
`Scene.Writes` says so of a part of a turn, `Pass.transcript_eq` of a pass, `transcript_next` of a
tick and `Runs.transcript_eq` of a run, in which nothing else is seen to be written
(`glyphsOf_seen`).
-/

namespace RuneGrid

variable {σ : Type} [Sink σ]

/-! ### Turns -/

/-- Between two scenes these glyphs are written, and seen to be written. -/
structure Scene.Writes (f : Scene σ) (glyphs : List Char) (f' : Scene σ) : Prop where
  events : glyphsOf f'.events = glyphsOf f.events ++ glyphs
  transcript : (Sink.transcript f'.sink).toList = (Sink.transcript f.sink).toList ++ glyphs

namespace Scene.Writes

variable {f f' : Scene σ} {glyphs : List Char}

theorem refl (f : Scene σ) : f.Writes [] f :=
  ⟨(List.append_nil _).symm, (List.append_nil _).symm⟩

/-- The announcement of a command writes nothing. -/
theorem of_command {id : Nat} {pos : Vec} {glyph : Char}
    (h : (f.note (.command id pos glyph)).Writes glyphs f') : f.Writes glyphs f' := by
  obtain ⟨hevents, htranscript⟩ := h
  rw [glyphsOf_note] at hevents
  refine ⟨?_, htranscript⟩
  rw [hevents, List.append_assoc]
  rfl

/-- In a turn, what is written is what is seen. -/
theorem transcript_eq {shared : Shared σ} {p : Pointer} (h : Scene.Writes ⟨shared, p, []⟩ glyphs f) :
    (Sink.transcript f.sink).toList =
      (Sink.transcript shared.sink).toList ++ glyphsOf f.events := by
  rw [h.transcript, h.events]
  rfl

end Scene.Writes

section

variable [LawfulSink σ] {i : Instruction} {g : Grid} {f f' : Scene σ} {fault : Fault} {n : Nat}
  {e : RunError}

theorem Instruction.Completes.exists_writes (h : i.Completes f f') :
    ∃ glyphs, f.Writes glyphs f' := by
  cases h with
  | @output _ glyph sink _ hs =>
    refine ⟨[glyph], glyphsOf_note _ _, ?_⟩
    show (Sink.transcript sink).toList = _
    rw [LawfulSink.transcript_of_taken hs, String.toList_push]
  | push =>
    refine ⟨[], ?_, (List.append_nil _).symm⟩
    rw [glyphsOf_note]
    rfl
  | operate =>
    refine ⟨[], ?_, (List.append_nil _).symm⟩
    show glyphsOf (Scene.note _ _).events = _
    rw [glyphsOf_note]
    rfl
  | _ => exact ⟨[], (List.append_nil _).symm, (List.append_nil _).symm⟩

/-- A fault writes nothing. -/
theorem Instruction.Faults.writes (h : i.Faults f fault f') : f.Writes [] f' := by
  constructor
  · cases h with
    | unsetOperand =>
      rw [glyphsOf_note]
      rfl
    | arithmetic =>
      rw [glyphsOf_note]
      rfl
    | _ => exact (List.append_nil _).symm
  · rw [Execution.transcript_of_faults h, List.append_nil]

namespace Scene

theorem Executes.exists_writes (h : Executes g f f') : ∃ glyphs, f.Writes glyphs f' := by
  obtain ⟨glyph, -, hm⟩ := h.completes
  obtain ⟨glyphs, hglyphs⟩ := hm.exists_writes
  exact ⟨glyphs, hglyphs.of_command⟩

theorem Moves.exists_writes (h : Moves g f f') : ∃ glyphs, f.Writes glyphs f' := by
  obtain ⟨hm, -⟩ := h
  obtain ⟨glyphs, hevents, htranscript⟩ := hm.exists_writes
  exact ⟨glyphs, hevents, htranscript⟩

theorem Stops.exists_writes (h : Stops g n f e f') : ∃ glyphs, f.Writes glyphs f' := by
  cases h with
  | offGrid => exact ⟨[], .refl f⟩
  | faulted _ hf => exact ⟨[], hf.writes.of_command⟩
  | stranded hm =>
    obtain ⟨glyphs, hevents, htranscript⟩ := hm.exists_writes
    exact ⟨glyphs, hevents, htranscript⟩

end Scene

/-! ### Passes and ticks -/

/-- **A pass writes what it is seen to write**, whether it gets through or not. -/
theorem Pass.transcript_eq (g : Grid) (n : Nat) (ps : List Pointer) (shared : Shared σ) :
    (Sink.transcript (run g n ps shared).shared.sink).toList =
      (Sink.transcript shared.sink).toList ++ glyphsOf (run g n ps shared).events := by
  induction ps generalizing shared with
  | nil => exact (List.append_nil _).symm
  | cons p ps ih =>
    rcases Scene.moves_or_stops g n ⟨shared, p, []⟩ with ⟨m, hm⟩ | ⟨e, m, hm⟩
    · obtain ⟨glyphs, hglyphs⟩ := hm.exists_writes
      rw [run_cons_of_moves hm]
      dsimp only
      rw [ih, hglyphs.transcript_eq, glyphsOf_append, List.append_assoc]
    · obtain ⟨glyphs, hglyphs⟩ := hm.exists_writes
      rw [run_cons_of_stops hm]
      exact hglyphs.transcript_eq

namespace Execution

variable {s : Execution σ} {us : List (Execution σ)} {r : Run σ}

omit [LawfulSink σ] in
theorem glyphsOf_tick (s : Execution σ) : glyphsOf s.tick.events = glyphsOf s.pass.events := by
  rw [tick_eq]
  split
  · rfl
  · rw [glyphsOf_append]
    exact List.append_nil _

theorem transcript_next (s : Execution σ) :
    s.tick.next.transcript.toList = s.transcript.toList ++ glyphsOf s.tick.events := by
  rw [transcript, transcript, toShared_next, glyphsOf_tick]
  exact Pass.transcript_eq _ _ _ _

/-! ### Runs -/

/-- **A run writes what its ticks are seen to write.** -/
theorem Runs.transcript_eq (h : s.Runs us r) : r.final.transcript.toList =
    s.transcript.toList ++ glyphsOf (us.flatMap (·.tick.events)) := by
  induction h with
  | halted => exact (List.append_nil _).symm
  | spent => exact (List.append_nil _).symm
  | fails =>
    rw [List.flatMap_singleton]
    exact transcript_next _
  | goesOn _ _ _ _ ih =>
    rw [ih, transcript_next, List.flatMap_cons, glyphsOf_append, List.append_assoc]

omit [LawfulSink σ] in
/-- The start and the end of a run write nothing. -/
theorem glyphsOf_seen (s : Execution σ) (us : List (Execution σ)) (r : Run σ) :
    glyphsOf (s.seen us r) = glyphsOf (us.flatMap (·.tick.events)) := by
  have hclosing : glyphsOf r.closing = [] := by
    unfold Run.closing
    cases r.result <;> rfl
  unfold seen
  rw [List.cons_append, ← List.singleton_append, glyphsOf_append, glyphsOf_append, hclosing,
    List.append_nil]
  rfl

end Execution

end

end RuneGrid
