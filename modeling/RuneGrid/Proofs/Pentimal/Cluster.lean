import Mathlib.Data.List.SplitBy
import Mathlib.Tactic.Common
import RuneGrid.Pentimal

/-!
# Clusters and how they read

A line falls into clusters: `clusters_append` cuts it before any character that is not combining, and
`clusters_of_marks` keeps together what belongs to one base.  Conversely `exists_of_clusters_eq` says
what is known of a cluster from its place in the line.

`readCluster_single` and `readCluster_marked` are the two ways in which a cluster reads; later proofs
do not open `readCluster` again.  They give when a cluster can be read (`exists_readCluster_iff`),
what it reads as (`ReadsAs`), and otherwise which of its characters is the error
(`spoils_or_find?_of_error`).
-/

namespace RuneGrid

/-- In a chain, all but the first are related to the one before them. -/
theorem forall_mem_tail_of_isChain {α : Type} {R : α → α → Prop} {P : α → Prop}
    (h : ∀ a b, R a b → P b) {l : List α} (hl : l.IsChain R) : ∀ b ∈ l.tail, P b := by
  induction l with
  | nil => exact nofun
  | cons a l ih =>
    intro b hb
    cases l with
    | nil => cases hb
    | cons c l =>
      rw [List.isChain_cons_cons] at hl
      rcases List.mem_cons.1 hb with rfl | hb
      · exact h _ _ hl.1
      · exact ih hl.2 b hb

theorem map_eq_ok_iff {ε α β : Type} {f : α → β} {x : Except ε α} {b : β} :
    x.map f = .ok b ↔ ∃ a, x = .ok a ∧ f a = b := by
  cases x <;> simp [Except.map]

theorem map_eq_error_iff {ε α β : Type} {f : α → β} {x : Except ε α} {e : ε} :
    x.map f = .error e ↔ x = .error e := by
  cases x <;> simp [Except.map]

namespace Pentimal

variable {line cluster marks : List Char} {pre post : List (List Char)} {base cell found c : Char}

/-! ### Marks -/

/-- Whether a character is a mark of the table. -/
def isMark (c : Char) : Bool :=
  (strokes? c).isSome

theorem isCombining_of_isMark (h : isMark c) : isCombining c := by
  unfold isMark strokes? at h
  split at h <;> first | decide | cases h

theorem not_isCombining_stem : ¬ isCombining stem := by
  decide

theorem not_isCombining_ofDigit (d : Fin 16) : ¬ isCombining (Glyph.ofDigit d) := by
  revert d
  decide

/-! ### The clusters of a line -/

/-- A line can be cut before any character that is not combining. -/
theorem clusters_append {before after : List Char} (h : ∀ c ∈ after.head?, ¬ isCombining c) :
    clusters (before ++ after) = clusters before ++ clusters after :=
  List.splitBy_append fun _ _ c hc => Bool.eq_false_iff.2 (h c hc)

theorem isChain_of_marks (h : ∀ m ∈ marks, isCombining m) :
    (base :: marks).IsChain fun _ c => isCombining c := by
  induction marks generalizing base with
  | nil => exact List.isChain_singleton _
  | cons m marks ih =>
    obtain ⟨hm, hmarks⟩ := List.forall_mem_cons.1 h
    exact List.isChain_cons_cons.2 ⟨hm, ih hmarks⟩

/-- Combining characters stay with the character before them. -/
theorem clusters_of_marks (h : ∀ m ∈ marks, isCombining m) :
    clusters (base :: marks) = [base :: marks] :=
  List.splitBy_of_isChain (List.cons_ne_nil _ _) (isChain_of_marks h)

theorem flatten_clusters (line : List Char) : (clusters line).flatten = line :=
  List.flatten_splitBy _ _

theorem ne_nil_of_mem_clusters (h : cluster ∈ clusters line) : cluster ≠ [] :=
  List.ne_nil_of_mem_splitBy h

/-- No cluster but the first one starts with a combining character. -/
theorem not_isCombining_head (h : cluster ∈ (clusters line).tail) :
    ∀ c ∈ cluster.head?, ¬ isCombining c := by
  refine forall_mem_tail_of_isChain (P := fun cluster : List Char =>
    ∀ c ∈ cluster.head?, ¬ isCombining c) ?_
    (List.isChain_getLast_head_splitBy (fun _ c => isCombining c) line) cluster h
  rintro _ cluster ⟨-, hne, hc⟩ c hcluster
  rw [List.head?_eq_some_head hne] at hcluster
  cases hcluster
  exact Bool.eq_false_iff.1 hc

/-- **A cluster in its line**: a base with combining characters after it, and what follows starts
with a base of its own. -/
theorem exists_of_clusters_eq (h : clusters line = pre ++ cluster :: post) :
    ∃ base marks, cluster = base :: marks ∧ (∀ m ∈ marks, isCombining m) ∧
      (pre ≠ [] → ¬ isCombining base) ∧ line = pre.flatten ++ (base :: marks) ++ post.flatten ∧
      ∀ c ∈ post.flatten.head?, ¬ isCombining c := by
  have hmem : cluster ∈ clusters line := by
    rw [h]
    simp
  obtain ⟨base, marks, rfl⟩ := List.exists_cons_of_ne_nil (ne_nil_of_mem_clusters hmem)
  refine ⟨base, marks, rfl, ?_, fun hne => ?_, ?_, fun c hc => ?_⟩
  · have hchain := List.isChain_of_mem_splitBy (r := fun _ c => isCombining c) (l := line) hmem
    exact forall_mem_tail_of_isChain (P := fun m => isCombining m) (fun _ _ hc => hc) hchain
  · have htail : base :: marks ∈ (clusters line).tail := by
      rw [h, List.tail_append_of_ne_nil hne]
      simp
    exact not_isCombining_head htail base rfl
  · rw [← flatten_clusters line, h]
    simp
  · cases post with
    | nil => cases hc
    | cons next post =>
      have hnext : next ∈ (clusters line).tail := by
        rw [h]
        cases pre <;> simp
      have hne := ne_nil_of_mem_clusters (List.mem_of_mem_tail hnext)
      refine not_isCombining_head hnext c ?_
      rwa [List.flatten_cons, List.head?_append_of_ne_nil _ hne] at hc

/-! ### Reading a cluster -/

theorem exists_addStrokes_iff {n : Nat} :
    (∃ k, addStrokes n marks = .ok k) ↔ ∀ m ∈ marks, isMark m := by
  induction marks generalizing n with
  | nil => simp [addStrokes]
  | cons m marks ih =>
    rw [addStrokes, List.forall_mem_cons, isMark]
    cases strokes? m with
    | none => simp
    | some s => simpa using ih

/-- The error is the first character that is no mark. -/
theorem find?_of_addStrokes {n : Nat} (h : addStrokes n marks = .error found) :
    marks.find? (fun m => !isMark m) = some found := by
  induction marks generalizing n with
  | nil => cases h
  | cons m marks ih =>
    rw [addStrokes] at h
    rw [List.find?_cons, isMark]
    cases hs : strokes? m with
    | none =>
      rw [hs] at h
      cases h
      rfl
    | some s =>
      rw [hs] at h
      exact ih h

theorem readCluster_single (base : Char) :
    readCluster [base] = if isCombining base ∧ ¬ isMark base then .error base else .ok base := by
  cases hs : strokes? base <;> simp [readCluster, isMark, hs]

theorem readCluster_marked (hm : marks ≠ []) :
    readCluster (base :: marks) = if base = stem ∨ isMark base then
      (addStrokes ((strokes? base).getD 0) marks).map digitOfStrokes else .error base := by
  obtain ⟨m, marks, rfl⟩ := List.exists_cons_of_ne_nil hm
  cases hs : strokes? base <;> simp [readCluster, isMark, hs]

/-- **Which clusters can be read**: a base by itself unless it is a combining character outside the
table, and the stem or a mark with marks on it. -/
theorem exists_readCluster_iff : (∃ cell, readCluster (base :: marks) = .ok cell) ↔
    (isCombining base → isMark base) ∧
      (marks ≠ [] → (base = stem ∨ isMark base) ∧ ∀ m ∈ marks, isMark m) := by
  by_cases hm : marks = []
  · subst hm
    rw [readCluster_single]
    split <;> simp_all
  · rw [readCluster_marked hm]
    by_cases hb : base = stem ∨ isMark base
    · have hc : isCombining base → isMark base := by
        intro hc
        rcases hb with rfl | hb
        · exact absurd hc not_isCombining_stem
        · exact hb
      rw [if_pos hb, ← exists_addStrokes_iff (n := (strokes? base).getD 0)]
      simp only [map_eq_ok_iff]
      constructor
      · rintro ⟨cell, k, hk, -⟩
        exact ⟨hc, fun _ => ⟨hb, k, hk⟩⟩
      · rintro ⟨-, h⟩
        obtain ⟨-, k, hk⟩ := h hm
        exact ⟨_, k, hk, rfl⟩
    · simp [hb, hm]

/-- What a cluster reads as: a base by itself as it is, one with marks as a digit. -/
inductive ReadsAs : List Char → Char → Prop
  | plain (base : Char) (h : isCombining base → isMark base) : ReadsAs [base] base
  | numeral (base : Char) {marks : List Char} (hm : marks ≠ []) (d : Fin 16) :
    ReadsAs (base :: marks) (Glyph.ofDigit d)

theorem ReadsAs.of_ok (h : readCluster cluster = .ok cell) : ReadsAs cluster cell := by
  cases cluster with
  | nil => cases h
  | cons base marks =>
    by_cases hm : marks = []
    · subst hm
      have hb : isCombining base → isMark base := (exists_readCluster_iff.1 ⟨cell, h⟩).1
      rw [readCluster_single, if_neg (fun hc => hc.2 (hb hc.1))] at h
      cases h
      exact .plain _ hb
    · rw [readCluster_marked hm] at h
      split at h
      · obtain ⟨n, -, rfl⟩ := map_eq_ok_iff.1 h
        exact .numeral base hm _
      · cases h

/-! ### The character to blame -/

/-- Whether the base is to blame for a cluster that cannot be read: it is a combining character
outside the table, or it carries marks although it is neither the stem nor combining. -/
def Spoils (base : Char) (marks : List Char) : Prop :=
  isCombining base ∧ ¬ isMark base ∨ base ≠ stem ∧ ¬ isCombining base ∧ marks ≠ []

/-- **Whom an unreadable cluster blames**: the base if that spoils it, and otherwise the first
character after the base that is no mark. -/
theorem spoils_or_find?_of_error (h : readCluster (base :: marks) = .error found) :
    Spoils base marks ∧ found = base ∨
      ¬ Spoils base marks ∧ marks.find? (fun m => !isMark m) = some found := by
  by_cases hm : marks = []
  · subst hm
    rw [readCluster_single] at h
    split at h
    · next hb =>
      cases h
      exact Or.inl ⟨Or.inl hb, rfl⟩
    · cases h
  · rw [readCluster_marked hm] at h
    split at h
    · next hb =>
      refine Or.inr ⟨?_, ?_⟩
      · rintro (⟨hc, hn⟩ | ⟨hne, hc, -⟩)
        · rcases hb with rfl | hb
          · exact not_isCombining_stem hc
          · exact hn hb
        · rcases hb with hb | hb
          · exact hne hb
          · exact hc (isCombining_of_isMark hb)
      · exact find?_of_addStrokes (map_eq_error_iff.1 h)
    · next hb =>
      cases h
      rw [not_or] at hb
      refine Or.inl ⟨?_, rfl⟩
      by_cases hc : isCombining base
      · exact Or.inl ⟨hc, hb.2⟩
      · exact Or.inr ⟨hb.1, hc, hm⟩

end Pentimal

end RuneGrid
