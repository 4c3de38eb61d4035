import Mathlib.Algebra.GroupWithZero.Nat
import RuneGrid.Proofs.Pentimal.Cluster

/-!
# What a numeral is worth

The reader adds strokes modulo 16 and takes 15 more in place of one less.  What it reads is all the
same the digit of the whole sum less one (`strokesOf`): each step keeps the sum modulo 16
(`addStrokes_eq`), and there is at least one stroke to take away (`strokesOf_pos`).  The order of
the marks does not change the sum, and so it does not change the digit.

* `readCluster_eq_digit`: the value of a numeral.
* `lt_of_addStrokes`: what is carried along stays below 16, so no sum on the way is more than 30.

`numeral_value` puts this together, with the texts that can be read at all.
-/

namespace RuneGrid

namespace Pentimal

variable {base m : Char} {marks marks' text : List Char} {k n s : Nat}

/-! ### Strokes -/

/-- The strokes of a character. Those that are no marks have none. -/
def strokes (c : Char) : Nat :=
  (strokes? c).getD 0

/-- The strokes of a text, however many these are. -/
def strokesOf (text : List Char) : Nat :=
  (text.map strokes).sum

@[simp]
theorem strokesOf_nil : strokesOf [] = 0 := rfl

@[simp]
theorem strokesOf_cons (c : Char) (text : List Char) :
    strokesOf (c :: text) = strokes c + strokesOf text := by
  simp [strokesOf]

theorem strokesOf_stem (marks : List Char) : strokesOf (stem :: marks) = strokesOf marks := by
  simp [show strokes stem = 0 by decide]

theorem strokesOf_perm (h : text.Perm marks) : strokesOf text = strokesOf marks :=
  (h.map strokes).sum_nat

theorem strokesOf_replicate (n : Nat) (m : Char) :
    strokesOf (List.replicate n m) = n * strokes m := by
  simp [strokesOf]

/-- A mark has at least one stroke and at most ten. -/
theorem strokes_of_strokes? (h : strokes? m = some s) : strokes m = s ∧ 1 ≤ s ∧ s ≤ 10 := by
  refine ⟨by rw [strokes, h, Option.getD_some], ?_⟩
  unfold strokes? at h
  split at h <;> cases h <;> decide

theorem strokes_pos (h : isMark m) : 0 < strokes m := by
  obtain ⟨s, hs⟩ := Option.isSome_iff_exists.1 h
  obtain ⟨heq, hpos, -⟩ := strokes_of_strokes? hs
  omega

theorem strokes_le_ten (c : Char) : strokes c ≤ 10 := by
  cases hs : strokes? c with
  | none => simp [strokes, hs]
  | some s =>
    obtain ⟨heq, -, hle⟩ := strokes_of_strokes? hs
    omega

theorem strokesOf_pos (hm : marks ≠ []) (h : ∀ m ∈ marks, isMark m) : 0 < strokesOf marks := by
  cases marks with
  | nil => exact absurd rfl hm
  | cons m marks =>
    have := strokes_pos (h m List.mem_cons_self)
    rw [strokesOf_cons]
    omega

/-! ### Adding modulo 16 -/

/-- The sum of marks comes out, modulo 16. -/
theorem addStrokes_eq (h : ∀ m ∈ marks, isMark m) (hn : n < 16) :
    addStrokes n marks = .ok ((n + strokesOf marks) % 16) := by
  induction marks generalizing n with
  | nil => rw [addStrokes, strokesOf_nil, Nat.add_zero, Nat.mod_eq_of_lt hn]
  | cons m marks ih =>
    obtain ⟨hm, hmarks⟩ := List.forall_mem_cons.1 h
    obtain ⟨s, hs⟩ := Option.isSome_iff_exists.1 hm
    rw [addStrokes, hs, strokesOf_cons, (strokes_of_strokes? hs).1]
    dsimp only
    rw [ih hmarks (Nat.mod_lt _ (by decide)), Nat.mod_add_mod, Nat.add_assoc]

/-- What is carried along stays below 16. -/
theorem lt_of_addStrokes (h : addStrokes n marks = .ok k) (hn : n < 16) : k < 16 := by
  have hall := exists_addStrokes_iff.1 ⟨k, h⟩
  rw [addStrokes_eq hall hn] at h
  cases h
  exact Nat.mod_lt _ (by decide)

/-- 15 more is one less. -/
theorem digitOfStrokes_mod (hn : 0 < n) : digitOfStrokes (n % 16) = ((n - 1) % 16).digitChar := by
  have h : (n % 16 + 15) % 16 = (n - 1) % 16 := by omega
  exact congrArg Nat.digitChar h

/-! ### The value -/

/-- **A numeral reads as the digit of all its strokes less one.** -/
theorem readCluster_eq_digit (hb : base = stem ∨ isMark base) (hm : marks ≠ [])
    (h : ∀ m ∈ marks, isMark m) :
    readCluster (base :: marks) = .ok ((strokesOf (base :: marks) - 1) % 16).digitChar := by
  have hpos := strokesOf_pos hm h
  have hlt := strokes_le_ten base
  have hadd : addStrokes (strokes base) marks = .ok (strokesOf (base :: marks) % 16) := by
    rw [addStrokes_eq h (by omega), strokesOf_cons]
  rw [readCluster_marked hm, if_pos hb, ← strokes, hadd, Except.map,
    digitOfStrokes_mod (by rw [strokesOf_cons]; omega)]

/-- The order of the marks does not matter, and neither does which of them is the base. -/
theorem readCluster_perm {base' : Char} (hp : (base :: marks).Perm (base' :: marks'))
    (hb : base = stem ∨ isMark base) (hb' : base' = stem ∨ isMark base') (hm : marks ≠ [])
    (h : ∀ m ∈ marks, isMark m) (h' : ∀ m ∈ marks', isMark m) :
    readCluster (base :: marks) = readCluster (base' :: marks') := by
  have hm' : marks' ≠ [] := by
    rintro rfl
    exact hm (List.length_eq_zero_iff.1 (Nat.succ.inj hp.length_eq))
  rw [readCluster_eq_digit hb hm h, readCluster_eq_digit hb' hm' h', strokesOf_perm hp]

theorem readCluster_stem_perm (hp : marks.Perm marks') (h : ∀ m ∈ marks, isMark m) :
    readCluster (stem :: marks) = readCluster (stem :: marks') := by
  by_cases hm : marks = []
  · subst hm
    rw [List.nil_perm.1 hp]
  · exact readCluster_perm (hp.cons stem) (Or.inl rfl) (Or.inl rfl) hm h
      fun m hmem => h m (hp.mem_iff.2 hmem)

/-! ### All texts -/

/-- **Which texts can be read**: a character by itself unless it is a combining character outside
the table, and the stem or a mark with nothing but marks on it. -/
theorem exists_readCluster_iff_text : (∃ cell, readCluster text = .ok cell) ↔
    (∃ c, text = [c] ∧ (isCombining c → isMark c)) ∨
    ∃ base marks, text = base :: marks ∧ (base = stem ∨ isMark base) ∧ marks ≠ [] ∧
      ∀ m ∈ marks, isMark m := by
  cases text with
  | nil => simp [readCluster]
  | cons base marks =>
    rw [exists_readCluster_iff]
    constructor
    · rintro ⟨hbase, hmarks⟩
      by_cases hm : marks = []
      · exact Or.inl ⟨base, by rw [hm], hbase⟩
      · obtain ⟨hb, hall⟩ := hmarks hm
        exact Or.inr ⟨base, marks, rfl, hb, hm, hall⟩
    · rintro (⟨c, heq, hc⟩ | ⟨base', marks', heq, hb, hm, hall⟩)
      · cases heq
        exact ⟨hc, fun hm => absurd rfl hm⟩
      · cases heq
        refine ⟨fun hc => ?_, fun _ => ⟨hb, hall⟩⟩
        rcases hb with rfl | hb
        · exact absurd hc not_isCombining_stem
        · exact hb

/-- **What a numeral is worth.**  Marks on the stem, or on a mark, read as the hexadecimal digit of
the sum of their strokes less one, in any order.  However far the reader has got, the sum that it
carries along is below 16, and so all its additions fit into 32 bits.  Besides numerals, only single
characters can be read, and of these not the combining characters outside the table. -/
theorem numeral_value :
    (∀ marks, marks ≠ [] → (∀ m ∈ marks, isMark m) →
      readCluster (stem :: marks) = .ok ((strokesOf marks - 1) % 16).digitChar) ∧
    (∀ lead marks, isMark lead → marks ≠ [] → (∀ m ∈ marks, isMark m) →
      readCluster (lead :: marks) = .ok ((strokesOf (lead :: marks) - 1) % 16).digitChar) ∧
    (∀ base done k, addStrokes (strokes base) done = .ok k →
      k < 16 ∧ (∀ m s, strokes? m = some s → k + s < UInt32.size) ∧ k + 15 < UInt32.size) ∧
    (∀ marks marks', marks.Perm marks' → (∀ m ∈ marks, isMark m) →
      readCluster (stem :: marks) = readCluster (stem :: marks')) ∧
    (∀ lead marks lead' marks', (lead :: marks).Perm (lead' :: marks') → marks ≠ [] →
      (∀ m ∈ lead :: marks, isMark m) →
      readCluster (lead :: marks) = readCluster (lead' :: marks')) ∧
    ∀ text, (∃ cell, readCluster text = .ok cell) ↔
      (∃ c, text = [c] ∧ (isCombining c → isMark c)) ∨
      ∃ base marks, text = base :: marks ∧ (base = stem ∨ isMark base) ∧ marks ≠ [] ∧
        ∀ m ∈ marks, isMark m := by
  refine ⟨fun marks hm h => ?_, fun lead marks hl => readCluster_eq_digit (Or.inr hl),
    fun base done k h => ?_, fun _ _ => readCluster_stem_perm, ?_,
    fun _ => exists_readCluster_iff_text⟩
  · rw [readCluster_eq_digit (Or.inl rfl) hm h, strokesOf_stem]
  · have hk := lt_of_addStrokes h (by have := strokes_le_ten base; omega)
    have hsize : 32 ≤ UInt32.size := by decide
    refine ⟨hk, fun m s hs => ?_, by omega⟩
    obtain ⟨-, -, hle⟩ := strokes_of_strokes? hs
    omega
  · intro lead marks lead' marks' hp hm h
    have h' : ∀ m ∈ lead' :: marks', isMark m := fun m hmem => h m (hp.mem_iff.2 hmem)
    rw [List.forall_mem_cons] at h h'
    exact readCluster_perm hp (Or.inr h.1) (Or.inr h'.1) hm h.2 h'.2

/-- A hundred thousand marks of one stroke read as the last digit of 99999 in base 16.  Two marks
read the same whichever of them leads, and neither the empty text nor a rune with a mark can be
read. -/
theorem numeral_of_many_marks :
    readCluster (stem :: List.replicate 100000 '\u0335') = .ok 'f' ∧
    readCluster ['\u0335', '\u0325'] = .ok 'a' ∧
    readCluster ['\u0325', '\u0335'] = .ok 'a' ∧
    readCluster [stem, '\u0325', '\u0335'] = readCluster [stem, '\u0335', '\u0325'] ∧
    addStrokes (strokes stem) ['\u0325', '\u0335'] = .ok 11 ∧ 11 + 10 < UInt32.size ∧
    (¬ ∃ cell, readCluster [] = .ok cell) ∧
    ¬ ∃ cell, readCluster ['ᚠ', '\u0335'] = .ok cell := by
  obtain ⟨hstem, hlead, hcarry, hperm, hperm', hread⟩ := numeral_value
  have hone : isMark '\u0335' := by decide
  have hten : isMark '\u0325' := by decide
  have htwo : ∀ m ∈ ['\u0325', '\u0335'], isMark m := by simp [hone, hten]
  have hswap : ['\u0325', '\u0335'].Perm ['\u0335', '\u0325'] := by decide
  have hfirst : readCluster ['\u0325', '\u0335'] = .ok 'a' :=
    hlead '\u0325' ['\u0335'] hten (by decide) (by simp [hone])
  have hsum : addStrokes (strokes stem) ['\u0325', '\u0335'] = .ok 11 := by decide
  refine ⟨?_, ?_, hfirst, hperm _ _ hswap htwo, hsum, ?_, ?_, ?_⟩
  · rw [hstem _ _ fun m hm => by rw [List.eq_of_mem_replicate hm]; exact hone, strokesOf_replicate]
    · rfl
    · exact List.ne_nil_of_length_pos (by rw [List.length_replicate]; decide)
  · rw [← hfirst]
    exact (hperm' _ _ _ _ hswap (by decide) htwo).symm
  · exact (hcarry _ _ _ hsum).2.1 '\u030A' 10 rfl
  · rw [hread]
    rintro (⟨c, h, -⟩ | ⟨base, marks, h, -⟩) <;> cases h
  · rw [hread]
    rintro (⟨c, h, -⟩ | ⟨base, marks, h, hb, -⟩) <;> cases h
    exact absurd hb (by decide)

end Pentimal

end RuneGrid
