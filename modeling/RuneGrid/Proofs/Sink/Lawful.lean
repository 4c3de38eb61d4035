import Mathlib.Tactic.Common
import RuneGrid.Sink.Stream

/-!
# Lawful sinks

What a caller may rely on whatever the sink does with the glyphs: its transcript is those that it
took, in order.  A glyph that is refused may leave its trace elsewhere, as the bytes that a stream
has written before the failure, but not in the transcript.
-/

namespace RuneGrid

/-- The transcript of the sink is what it took. -/
class LawfulSink (σ : Type) [Sink σ] : Prop where
  transcript_of_taken {glyph : Char} {s s' : σ} (h : Sink.emit glyph s = .ok () s') :
    Sink.transcript s' = (Sink.transcript s).push glyph
  transcript_of_refused {glyph : Char} {s s' : σ} {cause : WriteError}
    (h : Sink.emit glyph s = .error cause s') : Sink.transcript s' = Sink.transcript s

instance : LawfulSink Transcript where
  transcript_of_taken h := by
    cases h
    rfl
  transcript_of_refused h := by cases h

namespace Stream

variable {s s' : Stream} {glyph : Char} {cause : WriteError}

theorem emit_eq (glyph : Char) (s : Stream) :
    emit glyph s = match Writer.writeAll (String.utf8EncodeChar glyph) s.writer with
      | .ok () w =>
        match Writer.flush w with
        | .ok () w' => .ok () ⟨w', s.copy.push glyph⟩
        | .error cause w' => .error cause ⟨w', s.copy⟩
      | .error cause w => .error cause ⟨w, s.copy⟩ := by
  simp only [emit, onWriter, focus, bind, EStateM.bind]
  cases Writer.writeAll (String.utf8EncodeChar glyph) s.writer with
  | error cause w => rfl
  | ok _ w =>
    dsimp only
    cases Writer.flush w <;> rfl

/-- A glyph is taken if it is written and flushed, and then it is copied. -/
theorem emit_eq_ok_iff : Sink.emit glyph s = .ok () s' ↔
    ∃ w, Writer.writeAll (String.utf8EncodeChar glyph) s.writer = .ok () w ∧
      Writer.flush w = .ok () s'.writer ∧ s'.copy = s.copy.push glyph := by
  show emit glyph s = _ ↔ _
  rw [emit_eq]
  obtain ⟨writer, copy⟩ := s'
  cases Writer.writeAll (String.utf8EncodeChar glyph) s.writer with
  | error cause w => simp
  | ok _ w => cases hw : Writer.flush w <;> simp [hw, eq_comm]

/-- A glyph is refused if it cannot be written, or if it is written and cannot be flushed. -/
theorem emit_eq_error_iff : Sink.emit glyph s = .error cause s' ↔
    (Writer.writeAll (String.utf8EncodeChar glyph) s.writer = .error cause s'.writer ∨
      ∃ w, Writer.writeAll (String.utf8EncodeChar glyph) s.writer = .ok () w ∧
        Writer.flush w = .error cause s'.writer) ∧ s'.copy = s.copy := by
  show emit glyph s = _ ↔ _
  rw [emit_eq]
  obtain ⟨writer, copy⟩ := s'
  cases Writer.writeAll (String.utf8EncodeChar glyph) s.writer with
  | error cause w => simp [eq_comm, and_assoc]
  | ok _ w => cases hw : Writer.flush w <;> simp [hw, eq_comm, and_assoc]

instance : LawfulSink Stream where
  transcript_of_taken {glyph s s'} h := by
    obtain ⟨-, -, -, hcopy⟩ := emit_eq_ok_iff.1 h
    exact congrArg Transcript.text hcopy
  transcript_of_refused {glyph s s' cause} h := by
    obtain ⟨-, hcopy⟩ := emit_eq_error_iff.1 h
    exact congrArg Transcript.text hcopy

end Stream

end RuneGrid
