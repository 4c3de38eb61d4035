import Mathlib.Algebra.Order.Floor.Div
import RuneGrid.Proofs.Sink.Bytes

/-!
# Glyph after glyph, whatever becomes of each

A sink is given glyphs one after the other and goes on after each failure (`Sink.attempts`,
`Sink.emitAll`).  Its transcript is the glyphs that it took (`Sink.toList_transcript_emitAll`).  For
a stream each attempt leaves its part of the bytes (`Attempt.Leaves`): all of the encoding if it
could be written, also if the flush failed then, and less if it could not (`Attempt.exists_leaves`).

If nothing fails, it makes no difference how much the writer takes at a time, except for the number
of calls (`Writer.calls_of_writeAll`).  `Stream.attempts_add_up` puts this together.
-/

namespace RuneGrid

/-! ### Attempts -/

/-- A glyph that is about to be given to a sink. -/
structure Attempt (σ : Type) where
  glyph : Char
  sink : σ

namespace Attempt

variable {σ : Type} [Sink σ]

/-- Whether the sink takes the glyph. -/
def isTaken (a : Attempt σ) : Bool :=
  match Sink.emit a.glyph a.sink with
  | .ok .. => true
  | .error .. => false

/-- The sink afterwards, whether or not it has taken the glyph. -/
def next (a : Attempt σ) : σ :=
  match Sink.emit a.glyph a.sink with
  | .ok _ s => s
  | .error _ s => s

/-- The two ways in which an attempt goes. -/
theorem emit_cases (a : Attempt σ) :
    a.isTaken = true ∧ Sink.emit a.glyph a.sink = .ok () a.next ∨
      a.isTaken = false ∧ ∃ cause, Sink.emit a.glyph a.sink = .error cause a.next := by
  unfold isTaken next
  cases Sink.emit a.glyph a.sink with
  | ok _ s => exact Or.inl ⟨rfl, rfl⟩
  | error cause s => exact Or.inr ⟨rfl, cause, rfl⟩

theorem emit_of_isTaken {a : Attempt σ} (h : a.isTaken) :
    Sink.emit a.glyph a.sink = .ok () a.next := by
  rcases a.emit_cases with ⟨-, hemit⟩ | ⟨hrefused, -⟩
  · exact hemit
  · cases hrefused.symm.trans h

end Attempt

namespace Sink

variable {σ : Type} [Sink σ]

/-- The attempts to give a sink some glyphs, going on after those that fail. -/
def attempts : List Char → σ → List (Attempt σ)
  | [], _ => []
  | glyph :: glyphs, s => ⟨glyph, s⟩ :: attempts glyphs (Attempt.next ⟨glyph, s⟩)

/-- The sink after all of them. -/
def emitAll : List Char → σ → σ
  | [], s => s
  | glyph :: glyphs, s => emitAll glyphs (Attempt.next ⟨glyph, s⟩)

theorem map_glyph_attempts (glyphs : List Char) (s : σ) :
    (attempts glyphs s).map (·.glyph) = glyphs := by
  induction glyphs generalizing s with
  | nil => rfl
  | cons glyph glyphs ih => rw [attempts, List.map_cons, ih]

/-- **The transcript is the glyphs that were taken**, behind those from before. -/
theorem toList_transcript_emitAll [LawfulSink σ] (glyphs : List Char) (s : σ) :
    (transcript (emitAll glyphs s)).toList =
      (transcript s).toList ++ ((attempts glyphs s).filter (·.isTaken)).map (·.glyph) := by
  induction glyphs generalizing s with
  | nil => exact (List.append_nil _).symm
  | cons glyph glyphs ih =>
    rw [emitAll, attempts, ih]
    rcases Attempt.emit_cases ⟨glyph, s⟩ with ⟨htaken, hemit⟩ | ⟨htaken, cause, hemit⟩
    · rw [LawfulSink.transcript_of_taken hemit, List.filter_cons_of_pos htaken]
      simp
    · rw [LawfulSink.transcript_of_refused hemit, List.filter_cons_of_neg (by simp [htaken])]

/-- The sink takes all of the glyphs, one after the other. -/
inductive Takes : σ → List Char → σ → Prop
  | nil (s : σ) : Takes s [] s
  | cons {s m s' : σ} {glyph : Char} {glyphs : List Char} (h : emit glyph s = .ok () m)
    (hrest : Takes m glyphs s') : Takes s (glyph :: glyphs) s'

theorem takes_of_forall {glyphs : List Char} {s : σ} (h : ∀ a ∈ attempts glyphs s, a.isTaken) :
    Takes s glyphs (emitAll glyphs s) := by
  induction glyphs generalizing s with
  | nil => exact .nil s
  | cons glyph glyphs ih =>
    rw [attempts, List.forall_mem_cons] at h
    exact .cons (Attempt.emit_of_isTaken h.1) (ih h.2)

end Sink

/-! ### Calls of a writer -/

namespace Script

/-- Every write that succeeds takes `chunk` bytes, or all if there are fewer. -/
def Chunks (script : Script) (chunk : Nat) : Prop :=
  ∀ n limit, script.write n = .ok limit → limit = some chunk

/-- No call fails, and every write takes something. -/
structure NeverFails (script : Script) : Prop where
  write : ∀ n, ∃ limit, script.write n = .ok limit ∧ limit ≠ some 0
  flush : ∀ n, script.flush n = .ok ()

theorem neverFails_ofLimits {chunk : Nat} (h : chunk ≠ 0) :
    (ofLimits (some chunk) none none).NeverFails :=
  ⟨fun _ => ⟨some chunk, rfl, fun hzero => h (Option.some.inj hzero)⟩, fun _ => rfl⟩

theorem chunks_ofLimits (chunk : Nat) (writes flushes : Option Nat) :
    (ofLimits (some chunk) writes flushes).Chunks chunk := by
  intro n limit h
  simp only [ofLimits] at h
  split at h
  · split at h <;> cases h
    rfl
  · cases h
    rfl

end Script

namespace Writer

variable {w w' : Writer} {bytes : List UInt8} {chunk n : Nat}

theorem frame_of_write (h : write bytes w = .ok n w') :
    w'.script = w.script ∧ w'.flushCalls = w.flushCalls ∧ w'.flushes = w.flushes := by
  rw [write_apply] at h
  split at h <;> cases h
  exact ⟨rfl, rfl, rfl⟩

/-- Writing changes neither the script nor the numbers of flushes. -/
theorem frame_of_writeAll (h : writeAll bytes w = .ok () w') :
    w'.script = w.script ∧ w'.flushCalls = w.flushCalls ∧ w'.flushes = w.flushes := by
  induction bytes using writeAll.induct generalizing w with
  | case1 =>
    rw [writeAll_nil] at h
    cases h
    exact ⟨rfl, rfl, rfl⟩
  | case2 b bs ih =>
    rw [writeAll_cons] at h
    split at h
    · cases h
    · next n m hm =>
      obtain ⟨hscript, hcalls, hflushes⟩ := frame_of_write hm
      rw [← hscript, ← hcalls, ← hflushes]
      exact ih n h
    · cases h

theorem exists_write (hw : w.script.NeverFails) (b : UInt8) (bs : List UInt8) :
    ∃ n w', write (b :: bs) w = .ok (n + 1) w' := by
  obtain ⟨limit, hlimit, hne⟩ := hw.write w.writeCalls
  rw [write_apply, hlimit]
  cases limit with
  | none => exact ⟨bs.length, _, rfl⟩
  | some n =>
    cases n with
    | zero => exact absurd rfl hne
    | succ n => exact ⟨(bs.take n).length, _, rfl⟩

theorem exists_writeAll (hw : w.script.NeverFails) (bytes : List UInt8) :
    ∃ w', writeAll bytes w = .ok () w' := by
  induction bytes using writeAll.induct generalizing w with
  | case1 => exact ⟨w, writeAll_nil w⟩
  | case2 b bs ih =>
    obtain ⟨n, m, hm⟩ := exists_write hw b bs
    rw [writeAll_cons, hm]
    refine ih n ?_
    rwa [(frame_of_write hm).1]

theorem calls_of_write (hw : w.script.Chunks chunk) (h : write bytes w = .ok n w') :
    n = min chunk bytes.length ∧ w'.writeCalls = w.writeCalls + 1 ∧ w'.writes = w.writes + 1 := by
  rw [write_apply] at h
  split at h
  · cases h
  · next limit hlimit =>
    obtain rfl := hw _ _ hlimit
    cases h
    exact ⟨List.length_take, rfl, rfl⟩

/-- One piece of `chunk` bytes, or of all that there are, and the pieces of the rest. -/
theorem ceilDiv_eq_succ (hchunk : 0 < chunk) (hn : 0 < n) :
    n ⌈/⌉ chunk = (n - chunk) ⌈/⌉ chunk + 1 := by
  rw [Nat.ceilDiv_eq_add_pred_div, Nat.ceilDiv_eq_add_pred_div, ← Nat.add_div_right _ hchunk]
  by_cases hle : chunk ≤ n
  · congr 1
    omega
  · have hrest : n - chunk + chunk - 1 + chunk = chunk - 1 + chunk := by omega
    rw [hrest, Nat.div_eq_of_lt_le (k := 1) (by omega) (by omega),
      Nat.div_eq_of_lt_le (k := 1) (by omega) (by omega)]

/-- **The number of writes** that it takes to write bytes in pieces of one size. -/
theorem calls_of_writeAll (hchunk : 0 < chunk) (hw : w.script.Chunks chunk)
    (h : writeAll bytes w = .ok () w') :
    w'.writeCalls = w.writeCalls + bytes.length ⌈/⌉ chunk ∧
      w'.writes = w.writes + bytes.length ⌈/⌉ chunk := by
  induction bytes using writeAll.induct generalizing w with
  | case1 =>
    rw [writeAll_nil] at h
    cases h
    simp
  | case2 b bs ih =>
    rw [writeAll_cons] at h
    split at h
    · cases h
    · next n m hm =>
      obtain ⟨hn, hcalls, hwrites⟩ := calls_of_write hw hm
      obtain ⟨ihcalls, ihwrites⟩ := ih n (by rwa [(frame_of_write hm).1]) h
      -- what is left over after the first piece
      have hrest : (bs.drop n).length = (b :: bs).length - chunk := by
        rw [List.length_drop]
        rw [List.length_cons] at hn ⊢
        omega
      rw [ceilDiv_eq_succ hchunk (List.length_pos_of_mem List.mem_cons_self), ← hrest]
      omega
    · cases h

theorem calls_of_flush (h : flush w = .ok () w') :
    w'.script = w.script ∧ w'.writeCalls = w.writeCalls ∧ w'.writes = w.writes ∧
      w'.flushCalls = w.flushCalls + 1 ∧ w'.flushes = w.flushes + 1 := by
  rw [flush_apply] at h
  split at h <;> cases h
  exact ⟨rfl, rfl, rfl, rfl, rfl⟩

end Writer

/-! ### Attempts on a stream -/

namespace Attempt

variable {a : Attempt Stream} {part : List UInt8}

/-- Whether the whole encoding of the glyph is written. -/
def isWritten (a : Attempt Stream) : Bool :=
  match Writer.writeAll (String.utf8EncodeChar a.glyph) a.sink.writer with
  | .ok .. => true
  | .error .. => false

/-- What the attempt leaves with the writer: the encoding of the glyph if all of it is written, even
if it cannot be flushed then, and otherwise a beginning of it that is not all. -/
def Leaves (a : Attempt Stream) (part : List UInt8) : Prop :=
  if a.isWritten then part = String.utf8EncodeChar a.glyph
  else part <+: String.utf8EncodeChar a.glyph ∧ part ≠ String.utf8EncodeChar a.glyph

/-- **What one attempt leaves.** -/
theorem exists_leaves (a : Attempt Stream) :
    ∃ part, a.Leaves part ∧ a.next.written = a.sink.written ++ part := by
  unfold Leaves isWritten
  rcases a.emit_cases with ⟨-, hemit⟩ | ⟨-, cause, hemit⟩
  · obtain ⟨w, hw, -⟩ := Stream.emit_eq_ok_iff.1 hemit
    rw [hw]
    exact ⟨_, rfl, (Stream.written_of_taken hemit).1⟩
  · obtain ⟨hw | ⟨w, hw, hflush⟩, -⟩ := Stream.emit_eq_error_iff.1 hemit
    · obtain ⟨part, hpart, hne, hwritten⟩ := Writer.exists_part_of_writeAll hw
      rw [hw]
      exact ⟨part, ⟨hpart, hne⟩, hwritten⟩
    · rw [hw]
      exact ⟨_, rfl, Stream.written_of_unflushed hw hflush⟩

theorem isTaken_of_neverFails (h : a.sink.writer.script.NeverFails) : a.isTaken := by
  rcases a.emit_cases with ⟨htaken, -⟩ | ⟨-, cause, hemit⟩
  · exact htaken
  · obtain ⟨w, hw⟩ := Writer.exists_writeAll h (String.utf8EncodeChar a.glyph)
    obtain ⟨hw' | ⟨w', hw', hflush⟩, -⟩ := Stream.emit_eq_error_iff.1 hemit
    · cases hw.symm.trans hw'
    · cases hw.symm.trans hw'
      rw [Writer.flush_apply, (Writer.frame_of_writeAll hw).1, h.flush] at hflush
      cases hflush

end Attempt

namespace Stream

variable {s s' : Stream} {glyph : Char} {glyphs : List Char} {chunk : Nat}

/-- The pieces of `chunk` bytes, or less for the last one of a glyph, that it takes to write the
encodings of glyphs one by one. -/
def pieces (chunk : Nat) (glyphs : List Char) : Nat :=
  (glyphs.map fun glyph => (String.utf8EncodeChar glyph).length ⌈/⌉ chunk).sum

/-- For a glyph that is taken, there is one flush. -/
theorem frame_of_taken (h : Sink.emit glyph s = .ok () s') :
    s'.writer.script = s.writer.script ∧ s'.writer.flushCalls = s.writer.flushCalls + 1 ∧
      s'.writer.flushes = s.writer.flushes + 1 := by
  obtain ⟨w, hw, hflush, -⟩ := emit_eq_ok_iff.1 h
  obtain ⟨hscript, -, -, hcalls, hflushes⟩ := Writer.calls_of_flush hflush
  obtain ⟨hscript', hcalls', hflushes'⟩ := Writer.frame_of_writeAll hw
  exact ⟨hscript.trans hscript', by rw [hcalls, hcalls'], by rw [hflushes, hflushes']⟩

/-- For a glyph that is taken, there is a write for each piece of its encoding. -/
theorem calls_of_taken (hchunk : 0 < chunk) (hs : s.writer.script.Chunks chunk)
    (h : Sink.emit glyph s = .ok () s') :
    s'.writer.writeCalls = s.writer.writeCalls + (String.utf8EncodeChar glyph).length ⌈/⌉ chunk ∧
      s'.writer.writes = s.writer.writes + (String.utf8EncodeChar glyph).length ⌈/⌉ chunk := by
  obtain ⟨w, hw, hflush, -⟩ := emit_eq_ok_iff.1 h
  obtain ⟨-, hcalls, hwrites, -, -⟩ := Writer.calls_of_flush hflush
  rw [hcalls, hwrites]
  exact Writer.calls_of_writeAll hchunk hs hw

/-! ### All attempts on a stream -/

/-- **What all attempts leave**, one part after the other. -/
theorem exists_leaves_emitAll (glyphs : List Char) (s : Stream) :
    ∃ parts, List.Forall₂ Attempt.Leaves (Sink.attempts glyphs s) parts ∧
      (Sink.emitAll glyphs s).written = s.written ++ parts.flatten := by
  induction glyphs generalizing s with
  | nil => exact ⟨[], .nil, (List.append_nil _).symm⟩
  | cons glyph glyphs ih =>
    obtain ⟨part, hleaves, hpart⟩ := Attempt.exists_leaves ⟨glyph, s⟩
    obtain ⟨parts, hparts, hwritten⟩ := ih (Attempt.next ⟨glyph, s⟩)
    refine ⟨part :: parts, .cons hleaves hparts, ?_⟩
    rw [Sink.emitAll, hwritten, hpart, List.flatten_cons, List.append_assoc]

theorem isTaken_of_neverFails (h : s.writer.script.NeverFails) :
    ∀ a ∈ Sink.attempts glyphs s, a.isTaken := by
  induction glyphs generalizing s with
  | nil => exact nofun
  | cons glyph glyphs ih =>
    have htaken : Attempt.isTaken ⟨glyph, s⟩ := Attempt.isTaken_of_neverFails h
    rw [Sink.attempts, List.forall_mem_cons]
    refine ⟨htaken, ih ?_⟩
    rwa [(frame_of_taken (Attempt.emit_of_isTaken htaken)).1]

end Stream

/-! ### Streams that take everything -/

namespace Sink.Takes

variable {s s' : Stream} {glyphs : List Char} {chunk : Nat}

theorem faithful (h : Takes s glyphs s') (hs : s.Faithful) : s'.Faithful := by
  induction h with
  | nil => exact hs
  | cons hemit _ ih => exact ih (hs.taken hemit)

theorem flushes (h : Takes s glyphs s') :
    s'.writer.flushCalls = s.writer.flushCalls + glyphs.length ∧
      s'.writer.flushes = s.writer.flushes + glyphs.length := by
  induction h with
  | nil => exact ⟨rfl, rfl⟩
  | cons hemit _ ih =>
    obtain ⟨-, hcalls, hflushes⟩ := Stream.frame_of_taken hemit
    rw [List.length_cons]
    omega

theorem writes (hchunk : 0 < chunk) (h : Takes s glyphs s') (hs : s.writer.script.Chunks chunk) :
    s'.writer.writeCalls = s.writer.writeCalls + Stream.pieces chunk glyphs ∧
      s'.writer.writes = s.writer.writes + Stream.pieces chunk glyphs := by
  induction h with
  | nil => exact ⟨rfl, rfl⟩
  | cons hemit _ ih =>
    obtain ⟨hcalls, hwrites⟩ := Stream.calls_of_taken hchunk hs hemit
    obtain ⟨hscript, -⟩ := Stream.frame_of_taken hemit
    obtain ⟨ihcalls, ihwrites⟩ := ih (by rwa [hscript])
    rw [Stream.pieces, List.map_cons, List.sum_cons, ← Stream.pieces]
    omega

end Sink.Takes

namespace Stream

/-- **What many attempts on a stream add up to**, over any writer and whichever of them fail.  The
transcript is the glyphs that were taken.  The writer has of each glyph its whole encoding, if all
of that could be written, and otherwise less.  If the script never fails, every glyph is taken.  If
every glyph is taken, the bytes are the encoding of the transcript, there is a flush for each glyph,
and there is a write for each piece of its encoding. -/
theorem attempts_add_up (script : Script) (glyphs : List Char) (s s' : Stream)
    (hs : ofScript script = s) (hs' : Sink.emitAll glyphs s = s') :
    (Sink.attempts glyphs s).map (·.glyph) = glyphs ∧
    (Sink.transcript s').toList =
      ((Sink.attempts glyphs s).filter (·.isTaken)).map (·.glyph) ∧
    (∃ parts, List.Forall₂ Attempt.Leaves (Sink.attempts glyphs s) parts ∧
      s'.written = parts.flatten) ∧
    (script.NeverFails → ∀ a ∈ Sink.attempts glyphs s, a.isTaken) ∧
    ((∀ a ∈ Sink.attempts glyphs s, a.isTaken) →
      Sink.transcript s' = .ofList glyphs ∧ s'.written = utf8 (.ofList glyphs) ∧
      (s'.writer.flushCalls = glyphs.length ∧ s'.writer.flushes = glyphs.length) ∧
      ∀ chunk, 0 < chunk → script.Chunks chunk →
        s'.writer.writeCalls = pieces chunk glyphs ∧ s'.writer.writes = pieces chunk glyphs) := by
  subst hs hs'
  refine ⟨Sink.map_glyph_attempts _ _, Sink.toList_transcript_emitAll _ _, ?_,
    fun h => isTaken_of_neverFails h, fun h => ?_⟩
  · exact exists_leaves_emitAll glyphs (ofScript script)
  · have htakes := Sink.takes_of_forall h
    have htranscript :
        Sink.transcript (Sink.emitAll glyphs (ofScript script)) = .ofList glyphs := by
      rw [← String.toList_inj, Sink.toList_transcript_emitAll, List.filter_eq_self.2 h,
        Sink.map_glyph_attempts, String.toList_ofList]
      rfl
    refine ⟨htranscript, ?_, ?_, fun chunk hchunk hchunks => ?_⟩
    · rw [← htranscript]
      exact htakes.faithful (faithful_ofScript script)
    · simpa [ofScript, Writer.ofScript] using htakes.flushes
    · simpa [ofScript, Writer.ofScript] using htakes.writes hchunk hchunks

/-- Two glyphs of three bytes each, to writers that take two bytes at a time.  If no call fails,
then there are four writes.  If the fourth one fails, then the second glyph is written in part. -/
theorem couple_adds_up : ∃ good good' bad bad',
    (ofScript (.ofLimits (some 2) none none) = good ∧ Sink.emitAll ['ᚢ', '᛬'] good = good' ∧
      (∀ a ∈ Sink.attempts ['ᚢ', '᛬'] good, a.isTaken) ∧
      good'.written = utf8 (.ofList ['ᚢ', '᛬']) ∧
      good'.writer.flushes = 2 ∧ good'.writer.writes = 4) ∧
    (ofScript (.ofLimits (some 2) (some 3) none) = bad ∧ Sink.emitAll ['ᚢ', '᛬'] bad = bad' ∧
      (Sink.attempts ['ᚢ', '᛬'] bad).map (fun a => (a.isTaken, a.isWritten)) =
        [(true, true), (false, false)] ∧
      (Sink.transcript bad').toList = ['ᚢ'] ∧
      ∃ parts, List.Forall₂ Attempt.Leaves (Sink.attempts ['ᚢ', '᛬'] bad) parts ∧
        bad'.written = parts.flatten) := by
  obtain ⟨good, hgood⟩ : ∃ s, ofScript (.ofLimits (some 2) none none) = s := ⟨_, rfl⟩
  obtain ⟨bad, hbad⟩ : ∃ s, ofScript (.ofLimits (some 2) (some 3) none) = s := ⟨_, rfl⟩
  obtain ⟨-, -, -, htaken, hall⟩ := attempts_add_up _ ['ᚢ', '᛬'] good _ hgood rfl
  obtain ⟨-, htranscript, hparts, -, -⟩ := attempts_add_up _ ['ᚢ', '᛬'] bad _ hbad rfl
  have htaken := htaken (Script.neverFails_ofLimits (by decide))
  obtain ⟨-, hwritten, ⟨-, hflushes⟩, hwrites⟩ := hall htaken
  obtain ⟨-, hwrites⟩ := hwrites 2 (by decide) (Script.chunks_ofLimits 2 none none)
  refine ⟨good, _, bad, _, ⟨hgood, rfl, htaken, hwritten, hflushes, hwrites.trans (by decide)⟩,
    hbad, rfl, ?_, htranscript.trans ?_, hparts⟩
  · rw [← hbad]
    decide +kernel
  · rw [← hbad]
    decide +kernel

end Stream

end RuneGrid
