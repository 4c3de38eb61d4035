import RuneGrid.Proofs.Sink.Lawful

/-!
# What a writer has taken

However a writer cuts what it is given into pieces and wherever it fails, it has taken a beginning
of it: all of it if `writeAll` succeeds (`written_of_writeAll`), less if it fails
(`exists_part_of_writeAll`).  So a stream that takes a glyph has passed on its encoding, and one
that refuses a glyph has passed on a part of it, which is all of it if it is the flush that fails
(`Stream.written_of_taken`, `Stream.exists_part_of_refused`).

A stream is faithful while the bytes that its writer has taken are the encoding of its copy.
-/

namespace RuneGrid

/-- The UTF-8 encoding of a text. -/
def utf8 (text : String) : List UInt8 :=
  text.toUTF8.data.toList

theorem utf8_push (text : String) (glyph : Char) :
    utf8 (text.push glyph) = utf8 text ++ String.utf8EncodeChar glyph := by
  simp [utf8, String.toByteArray_push, List.utf8Encode_singleton]

/-! ### Writers -/

namespace Writer

variable {w w' : Writer} {bytes : List UInt8} {cause : WriteError} {n : Nat}

/-- The bytes taken so far. -/
def written (w : Writer) : List UInt8 :=
  w.bytes.toList

theorem write_apply (bytes : List UInt8) (w : Writer) :
    write bytes w = match w.script.write w.writeCalls with
      | .error cause => .error cause { w with writeCalls := w.writeCalls + 1 }
      | .ok limit =>
        let taken := (limit.map bytes.take).getD bytes
        .ok taken.length { w with
          writeCalls := w.writeCalls + 1, writes := w.writes + 1, bytes := w.bytes ++ taken } := by
  show (write bytes).run w = _
  rw [write, EStateM.run_bind, EStateM.run_get]
  dsimp only
  cases w.script.write w.writeCalls with
  | error cause => rfl
  | ok limit => cases limit <;> rfl

/-- A write takes as many bytes as it answers, from the front. -/
theorem written_of_write (h : write bytes w = .ok n w') :
    w'.written = w.written ++ bytes.take n := by
  rw [write_apply] at h
  split at h
  · cases h
  · next limit _ =>
    cases h
    cases limit <;> simp [written]

theorem written_of_failed_write (h : write bytes w = .error cause w') :
    w'.written = w.written := by
  rw [write_apply] at h
  split at h
  · cases h
    rfl
  · cases h

theorem writeAll_nil (w : Writer) : writeAll [] w = .ok () w := by
  rw [writeAll]
  rfl

theorem writeAll_cons (b : UInt8) (bs : List UInt8) (w : Writer) :
    writeAll (b :: bs) w = match write (b :: bs) w with
      | .ok 0 m => .error stalled m
      | .ok (n + 1) m => writeAll (bs.drop n) m
      | .error cause m => .error cause m := by
  rw [writeAll]
  show EStateM.bind _ _ w = _
  rw [EStateM.bind]
  cases write (b :: bs) w with
  | error cause m => rfl
  | ok n m => cases n <;> rfl

/-- **What a success has written is everything.** -/
theorem written_of_writeAll (h : writeAll bytes w = .ok () w') :
    w'.written = w.written ++ bytes := by
  induction bytes using writeAll.induct generalizing w with
  | case1 =>
    rw [writeAll_nil] at h
    cases h
    simp
  | case2 b bs ih =>
    rw [writeAll_cons] at h
    split at h
    · cases h
    · next n m hm =>
      rw [ih n h, written_of_write hm, List.append_assoc, List.take_succ_cons, List.cons_append,
        List.take_append_drop]
    · cases h

/-- **What a failure has written is a beginning, and not everything.** -/
theorem exists_part_of_writeAll (h : writeAll bytes w = .error cause w') :
    ∃ part, part <+: bytes ∧ part ≠ bytes ∧ w'.written = w.written ++ part := by
  induction bytes using writeAll.induct generalizing w with
  | case1 =>
    rw [writeAll_nil] at h
    cases h
  | case2 b bs ih =>
    rw [writeAll_cons] at h
    split at h
    · next m hm =>
      cases h
      exact ⟨[], List.nil_prefix, nofun, written_of_write hm⟩
    · next n m hm =>
      obtain ⟨part, ⟨rest, hrest⟩, hne, hpart⟩ := ih n h
      -- what has been written before, and a beginning of what was left
      have hsplit : (b :: bs).take (n + 1) ++ bs.drop n = b :: bs := by
        rw [List.take_succ_cons, List.cons_append, List.take_append_drop]
      refine ⟨(b :: bs).take (n + 1) ++ part, ⟨rest, ?_⟩, fun heq => hne ?_, ?_⟩
      · rw [List.append_assoc, hrest, hsplit]
      · exact List.append_cancel_left (heq.trans hsplit.symm)
      · rw [hpart, written_of_write hm, List.append_assoc]
    · next hm =>
      cases h
      exact ⟨[], List.nil_prefix, nofun, by rw [written_of_failed_write hm, List.append_nil]⟩

theorem flush_apply (w : Writer) :
    flush w = match w.script.flush w.flushCalls with
      | .error cause => .error cause { w with flushCalls := w.flushCalls + 1 }
      | .ok () => .ok () { w with flushCalls := w.flushCalls + 1, flushes := w.flushes + 1 } := by
  show flush.run w = _
  rw [flush, EStateM.run_bind, EStateM.run_get]
  dsimp only
  cases w.script.flush w.flushCalls <;> rfl

theorem written_of_flush :
    (∀ {a}, flush w = .ok a w' → w'.written = w.written) ∧
      ∀ {cause}, flush w = .error cause w' → w'.written = w.written := by
  rw [flush_apply]
  constructor <;> intro _ h <;> split at h <;> cases h <;> rfl

end Writer

/-! ### Streams -/

namespace Stream

variable {s s' : Stream} {glyph : Char} {cause : WriteError}

/-- The bytes that the writer has taken so far. -/
def written (s : Stream) : List UInt8 :=
  s.writer.written

/-- The writer has taken what the copy says, byte by byte. -/
def Faithful (s : Stream) : Prop :=
  s.written = utf8 s.copy.text

theorem faithful_ofScript (script : Script) : (ofScript script).Faithful := rfl

/-- **A glyph that is taken** has been written and is copied. -/
theorem written_of_taken (h : Sink.emit glyph s = .ok () s') :
    s'.written = s.written ++ String.utf8EncodeChar glyph ∧ s'.copy = s.copy.push glyph := by
  obtain ⟨w, hw, hflush, hcopy⟩ := emit_eq_ok_iff.1 h
  refine ⟨?_, hcopy⟩
  rw [written, Writer.written_of_flush.1 hflush, Writer.written_of_writeAll hw, written]

/-- The copy would have taken it as well. -/
theorem emit_copy_of_taken (h : Sink.emit glyph s = .ok () s') :
    Sink.emit glyph s.copy = .ok () s'.copy := by
  rw [(written_of_taken h).2]
  rfl

/-- If it is the flush that fails, then all of the glyph has been written. -/
theorem written_of_unflushed {w : Writer}
    (hw : Writer.writeAll (String.utf8EncodeChar glyph) s.writer = .ok () w)
    (hflush : Writer.flush w = .error cause s'.writer) :
    s'.written = s.written ++ String.utf8EncodeChar glyph := by
  rw [written, Writer.written_of_flush.2 hflush, Writer.written_of_writeAll hw, written]

/-- **A glyph that is refused** may have been written in part, and is not copied. -/
theorem exists_part_of_refused (h : Sink.emit glyph s = .error cause s') :
    (∃ part, part <+: String.utf8EncodeChar glyph ∧ s'.written = s.written ++ part) ∧
      s'.copy = s.copy := by
  obtain ⟨hw | ⟨w, hw, hflush⟩, hcopy⟩ := emit_eq_error_iff.1 h
  · obtain ⟨part, hpart, -, hwritten⟩ := Writer.exists_part_of_writeAll hw
    exact ⟨⟨part, hpart, hwritten⟩, hcopy⟩
  · exact ⟨⟨_, List.prefix_refl _, written_of_unflushed hw hflush⟩, hcopy⟩

theorem Faithful.taken (hs : s.Faithful) (h : Sink.emit glyph s = .ok () s') : s'.Faithful := by
  obtain ⟨hwritten, hcopy⟩ := written_of_taken h
  rw [Faithful, hwritten, hcopy, hs, Transcript.push, utf8_push]

end Stream

end RuneGrid
