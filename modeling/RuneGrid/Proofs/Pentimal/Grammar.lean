import Mathlib.Data.List.Forall2
import RuneGrid.Proofs.Pentimal.Cluster

/-!
# The lines that can be read

A line is well marked (`WellMarked`) if all its combining characters are marks of the table and each
run of them opens the line or stands behind the stem.  This says nothing of clusters; a run behind a
base is the rest of its cluster, and `wellMarked_iff` makes the two meet.

A line is read cluster by cluster up to the first one that cannot be read (`readLine_eq_ok_iff`,
`exists_of_readLine_error`).  `readLine_grammar` puts this together: which lines are read, as what,
and which character of which cluster is blamed for the others.
-/

namespace RuneGrid

/-! ### Reading items one by one -/

section

variable {ε α β : Type} {f : α → Except ε β} {as : List α} {bs : List β} {e : ε}

theorem eq_error_of_bind {x : Except ε α} (h : x >>= f = .error e) :
    x = .error e ∨ ∃ a, x = .ok a ∧ f a = .error e := by
  cases x with
  | error e' =>
    cases h
    exact Or.inl rfl
  | ok a => exact Or.inr ⟨a, rfl, h⟩

theorem mapM_cons_eq (f : α → Except ε β) (a : α) (as : List α) :
    (a :: as).mapM f = match f a with
      | .ok b => (as.mapM f).map (b :: ·)
      | .error e => .error e := by
  rw [List.mapM_cons]
  cases f a with
  | error e => rfl
  | ok b => cases as.mapM f <;> rfl

theorem mapM_eq_ok_iff :
    as.mapM f = .ok bs ↔ List.Forall₂ (fun a b => f a = .ok b) as bs := by
  induction as generalizing bs with
  | nil =>
    rw [List.mapM_nil, List.forall₂_nil_left_iff]
    exact ⟨fun h => (Except.ok.inj h).symm, fun h => congrArg Except.ok h.symm⟩
  | cons a as ih =>
    rw [mapM_cons_eq, List.forall₂_cons_left_iff]
    cases ha : f a with
    | error e => simp
    | ok b =>
      constructor
      · intro h
        obtain ⟨cs, hcs, rfl⟩ := map_eq_ok_iff.1 h
        exact ⟨b, cs, rfl, ih.1 hcs, rfl⟩
      · rintro ⟨c, cs, hc, hcs, rfl⟩
        cases hc
        dsimp only
        rw [ih.2 hcs]
        rfl

/-- The first item that cannot be read is the error. -/
theorem exists_of_mapM_error (h : as.mapM f = .error e) :
    ∃ pre a post, as = pre ++ a :: post ∧ (∀ x ∈ pre, ∃ b, f x = .ok b) ∧ f a = .error e := by
  induction as with
  | nil => cases h
  | cons a as ih =>
    rw [mapM_cons_eq] at h
    cases ha : f a with
    | error e' =>
      rw [ha] at h
      cases h
      exact ⟨[], a, as, rfl, nofun, ha⟩
    | ok b =>
      rw [ha] at h
      obtain ⟨pre, x, post, rfl, hpre, hx⟩ := ih (map_eq_error_iff.1 h)
      exact ⟨a :: pre, x, post, rfl, List.forall_mem_cons.2 ⟨⟨b, ha⟩, hpre⟩, hx⟩

theorem mapM_eq_error {pre post : List α} {a : α} (hpre : ∀ x ∈ pre, ∃ b, f x = .ok b)
    (ha : f a = .error e) : (pre ++ a :: post).mapM f = .error e := by
  induction pre with
  | nil => rw [List.nil_append, mapM_cons_eq, ha]
  | cons x pre ih =>
    obtain ⟨⟨b, hb⟩, hpre⟩ := List.forall_mem_cons.1 hpre
    rw [List.cons_append, mapM_cons_eq, hb]
    exact map_eq_error_iff.2 (ih hpre)

theorem exists_mapM_iff : (∃ bs, as.mapM f = .ok bs) ↔ ∀ a ∈ as, ∃ b, f a = .ok b := by
  constructor
  · rintro ⟨bs, h⟩ a ha
    have hall := mapM_eq_ok_iff.1 h
    clear h
    induction hall with
    | nil => cases ha
    | cons hb _ ih =>
      rcases List.mem_cons.1 ha with rfl | ha
      · exact ⟨_, hb⟩
      · exact ih ha
  · intro h
    cases hm : as.mapM f with
    | ok bs => exact ⟨bs, rfl⟩
    | error e =>
      obtain ⟨pre, a, post, rfl, -, ha⟩ := exists_of_mapM_error hm
      obtain ⟨b, hb⟩ := h a (by simp)
      rw [ha] at hb
      cases hb

/-- A numbered item counts the items before it. -/
theorem eq_of_zipIdx_eq {n i : Nat} {a : α} {pre post : List (α × Nat)}
    (h : as.zipIdx n = pre ++ (a, i) :: post) :
    as = pre.map Prod.fst ++ a :: post.map Prod.fst ∧ i = n + pre.length := by
  constructor
  · rw [← List.zipIdx_map_fst n as, h, List.map_append, List.map_cons]
  · have hi : (as.zipIdx n)[pre.length]? = some (a, i) := by
      rw [h]
      simp
    rw [List.getElem?_zipIdx, Option.map_eq_some_iff] at hi
    obtain ⟨b, -, hb⟩ := hi
    exact (congrArg Prod.snd hb).symm

end

namespace Pentimal

variable {line : List Char} {cells : List Char} {number : Nat} {e : LoadError}

/-! ### The grammar -/

/-- `run` is a run of combining characters in the line, and neither what stands before it nor what
stands after it makes it longer. -/
structure IsRun (line before run after : List Char) : Prop where
  split : line = before ++ run ++ after
  ne_nil : run ≠ []
  combining : ∀ c ∈ run, isCombining c
  opens : ∀ c ∈ before.getLast?, ¬ isCombining c
  closes : ∀ c ∈ after.head?, ¬ isCombining c

/-- All combining characters are marks of the table, and each run of them starts the line or
directly follows the stem. -/
structure WellMarked (line : List Char) : Prop where
  marks : ∀ c ∈ line, isCombining c → isMark c
  runs : ∀ before run after, IsRun line before run after →
    before = [] ∨ before.getLast? = some stem

/-- In a well marked line every cluster can be read. -/
theorem WellMarked.exists_readCluster (h : WellMarked line) {cluster : List Char}
    (hc : cluster ∈ clusters line) : ∃ cell, readCluster cluster = .ok cell := by
  obtain ⟨pre, post, hsplit⟩ := List.append_of_mem hc
  obtain ⟨base, marks, rfl, hmarks, -, hline, hclose⟩ := exists_of_clusters_eq hsplit
  rw [exists_readCluster_iff]
  have hall : ∀ c ∈ base :: marks, isCombining c → isMark c := by
    intro c hmem
    refine h.marks c ?_
    rw [hline]
    simp only [List.mem_append]
    exact Or.inl (Or.inr hmem)
  refine ⟨hall base List.mem_cons_self, fun hne => ⟨?_, fun m hm => ?_⟩⟩
  · by_cases hb : isCombining base
    · exact Or.inr (hall base List.mem_cons_self hb)
    · -- the marks are a run behind the base
      have hrun : IsRun line (pre.flatten ++ [base]) marks post.flatten := by
        refine ⟨by rw [hline]; simp, hne, hmarks, fun c hlast => ?_, hclose⟩
        rw [List.getLast?_concat] at hlast
        cases hlast
        exact hb
      rcases h.runs _ _ _ hrun with hnil | hstem
      · exact absurd hnil (by simp)
      · rw [List.getLast?_concat] at hstem
        exact Or.inl (Option.some.inj hstem)
  · exact hall m (List.mem_cons_of_mem _ hm) (hmarks m hm)

/-- A run behind a base is, with it, a cluster. -/
theorem IsRun.mem_clusters {before run after : List Char} (h : IsRun line before run after)
    (hne : before ≠ []) :
    ∃ base, before.getLast? = some base ∧ ¬ isCombining base ∧ base :: run ∈ clusters line := by
  obtain ⟨before, base, rfl⟩ := (List.eq_nil_or_concat' before).resolve_left hne
  have hlast : (before ++ [base]).getLast? = some base := List.getLast?_concat
  have hb : ¬ isCombining base := h.opens base hlast
  refine ⟨base, hlast, hb, ?_⟩
  have hline : line = before ++ ((base :: run) ++ after) := by
    rw [h.split]
    simp
  rw [hline, clusters_append, clusters_append h.closes, clusters_of_marks h.combining]
  · simp
  · rintro c ⟨⟩
    exact hb

/-- **The grammar, cluster by cluster.** -/
theorem wellMarked_iff :
    WellMarked line ↔ ∀ cluster ∈ clusters line, ∃ cell, readCluster cluster = .ok cell := by
  refine ⟨fun h cluster hc => h.exists_readCluster hc, fun h => ⟨fun c hc hcomb => ?_, ?_⟩⟩
  · rw [← flatten_clusters line, List.mem_flatten] at hc
    obtain ⟨cluster, hmem, hc⟩ := hc
    have hread := h cluster hmem
    obtain ⟨base, marks, rfl⟩ := List.exists_cons_of_ne_nil (ne_nil_of_mem_clusters hmem)
    obtain ⟨hbase, hmarks⟩ := exists_readCluster_iff.1 hread
    rcases List.mem_cons.1 hc with rfl | hc
    · exact hbase hcomb
    · exact (hmarks (List.ne_nil_of_mem hc)).2 c hc
  · intro before run after hrun
    by_cases hne : before = []
    · exact Or.inl hne
    · obtain ⟨base, hlast, hb, hmem⟩ := hrun.mem_clusters hne
      obtain ⟨-, hmarks⟩ := exists_readCluster_iff.1 (h _ hmem)
      rcases (hmarks hrun.ne_nil).1 with rfl | hmark
      · exact Or.inr hlast
      · exact absurd (isCombining_of_isMark hmark) hb

/-! ### Reading a line -/

theorem mapError_eq_ok_iff {ε ε' α : Type} {f : ε → ε'} {x : Except ε α} {a : α} :
    x.mapError f = .ok a ↔ x = .ok a := by
  cases x <;> simp [Except.mapError]

theorem mapError_eq_error_iff {ε ε' α : Type} {f : ε → ε'} {x : Except ε α} {e : ε'} :
    x.mapError f = .error e ↔ ∃ c, x = .error c ∧ e = f c := by
  cases x <;> simp [Except.mapError, eq_comm]

/-- A line reads cell by cell as its clusters do. -/
theorem readLine_eq_ok_iff : readLine number line = .ok cells ↔
    List.Forall₂ (fun cluster cell => readCluster cluster = .ok cell) (clusters line) cells := by
  rw [readLine, mapM_eq_ok_iff]
  simp only [mapError_eq_ok_iff]
  conv_rhs => rw [← List.zipIdx_map_fst 1 (clusters line), List.forall₂_map_left_iff]

theorem exists_readLine_iff : (∃ cells, readLine number line = .ok cells) ↔
    ∀ cluster ∈ clusters line, ∃ cell, readCluster cluster = .ok cell := by
  rw [readLine, exists_mapM_iff]
  simp only [mapError_eq_ok_iff]
  conv_rhs => rw [← List.zipIdx_map_fst 1 (clusters line), List.forall_mem_map]

/-- The first cluster that cannot be read is the error. -/
theorem exists_of_readLine_error (h : readLine number line = .error e) :
    ∃ pre cluster post found, clusters line = pre ++ cluster :: post ∧
      (∀ c ∈ pre, ∃ cell, readCluster c = .ok cell) ∧ readCluster cluster = .error found ∧
      e = .unknownMark number (pre.length + 1) found := by
  obtain ⟨pre, ⟨cluster, column⟩, post, hsplit, hpre, herror⟩ := exists_of_mapM_error h
  obtain ⟨hclusters, rfl⟩ := eq_of_zipIdx_eq hsplit
  obtain ⟨found, hfound, rfl⟩ := mapError_eq_error_iff.1 herror
  refine ⟨_, cluster, _, found, hclusters, fun c hc => ?_, hfound, ?_⟩
  · obtain ⟨⟨c, column⟩, hmem, rfl⟩ := List.mem_map.1 hc
    obtain ⟨cell, hcell⟩ := hpre _ hmem
    exact ⟨cell, mapError_eq_ok_iff.1 hcell⟩
  · rw [List.length_map, Nat.add_comm]

theorem readLine_eq_error {pre post : List (List Char)} {cluster : List Char} {found : Char}
    (hsplit : clusters line = pre ++ cluster :: post)
    (hpre : ∀ c ∈ pre, ∃ cell, readCluster c = .ok cell) (h : readCluster cluster = .error found) :
    readLine number line = .error (.unknownMark number (pre.length + 1) found) := by
  rw [readLine, hsplit, List.zipIdx_append, List.zipIdx_cons, Nat.add_comm 1]
  refine mapM_eq_error ?_ (mapError_eq_error_iff.2 ⟨found, h, rfl⟩)
  rintro ⟨c, column⟩ hc
  obtain ⟨cell, hcell⟩ := hpre c (List.fst_mem_of_mem_zipIdx hc)
  exact ⟨cell, mapError_eq_ok_iff.2 hcell⟩

/-- The error blames the first cluster that cannot be read: its base if that is `guilty`, and
otherwise the first character after the base that is no mark. -/
def BlamesFirst (guilty : Char → List Char → Prop) (number : Nat) (line : List Char)
    (e : LoadError) : Prop :=
  ∃ pre base marks post found, clusters line = pre ++ (base :: marks) :: post ∧
    (∀ c ∈ pre, ∃ cell, readCluster c = .ok cell) ∧
    (¬ ∃ cell, readCluster (base :: marks) = .ok cell) ∧
    e = .unknownMark number (pre.length + 1) found ∧
    (guilty base marks ∧ found = base ∨
      ¬ guilty base marks ∧ marks.find? (fun m => !isMark m) = some found)

/-- **The grammar of lines.**  The lines that are well marked are read, and no others.  What is read
has one cell for each cluster: its base, if it has no marks, and otherwise a digit.  The error of
any other line names the line and, counted from 1, the first cluster that cannot be read; it blames
the base if this is a combining character outside the table, or neither the stem nor combining and
carries marks, and otherwise the first character on it that is no mark. -/
theorem readLine_grammar (number : Nat) (line : List Char) :
    ((∃ cells, readLine number line = .ok cells) ↔ WellMarked line) ∧
    (∀ cells, readLine number line = .ok cells → List.Forall₂ ReadsAs (clusters line) cells) ∧
    ∀ e, readLine number line = .error e → BlamesFirst Spoils number line e := by
  refine ⟨exists_readLine_iff.trans wellMarked_iff.symm, fun cells h => ?_, fun e h => ?_⟩
  · exact (readLine_eq_ok_iff.1 h).imp fun _ _ hc => .of_ok hc
  · obtain ⟨pre, cluster, post, found, hsplit, hpre, herror, rfl⟩ := exists_of_readLine_error h
    obtain ⟨base, marks, rfl, -⟩ := exists_of_clusters_eq hsplit
    refine ⟨pre, base, marks, post, found, hsplit, hpre, ?_, rfl, spoils_or_find?_of_error herror⟩
    rintro ⟨cell, hcell⟩
    rw [herror] at hcell
    cases hcell

/-- A numeral between two runes is read as a digit; a mark on a rune that is not the stem spoils it,
in the second cluster of its line. -/
theorem grammar_of_marked_lines :
    readLine 3 ['ᚠ', 'ᛁ', '\u0333', '\u0304', 'ᚢ'] = .ok ['ᚠ', '2', 'ᚢ'] ∧
      WellMarked ['ᚠ', 'ᛁ', '\u0333', '\u0304', 'ᚢ'] ∧
      List.Forall₂ ReadsAs [['ᚠ'], ['ᛁ', '\u0333', '\u0304'], ['ᚢ']] ['ᚠ', '2', 'ᚢ'] ∧
      readLine 4 ['ᛁ', 'ᚠ', '\u0335'] = .error (.unknownMark 4 2 'ᚠ') ∧
      ¬ WellMarked ['ᛁ', 'ᚠ', '\u0335'] ∧
      BlamesFirst Spoils 4 ['ᛁ', 'ᚠ', '\u0335'] (.unknownMark 4 2 'ᚠ') := by
  have hread : readLine 3 ['ᚠ', 'ᛁ', '\u0333', '\u0304', 'ᚢ'] = .ok ['ᚠ', '2', 'ᚢ'] := by decide
  have herror : readLine 4 ['ᛁ', 'ᚠ', '\u0335'] = .error (.unknownMark 4 2 'ᚠ') := by decide
  obtain ⟨hiff, hcells, -⟩ := readLine_grammar 3 ['ᚠ', 'ᛁ', '\u0333', '\u0304', 'ᚢ']
  obtain ⟨hiff', -, hblame⟩ := readLine_grammar 4 ['ᛁ', 'ᚠ', '\u0335']
  refine ⟨hread, hiff.1 ⟨_, hread⟩, hcells _ hread, herror, fun h => ?_, hblame _ herror⟩
  obtain ⟨cells, hok⟩ := hiff'.2 h
  rw [herror] at hok
  cases hok

/-- A mark that leads its line may carry marks, so it is not blamed for a character on it that is
none. -/
theorem leading_mark_not_blamed : ¬ ∀ (number : Nat) (line : List Char) (e : LoadError),
    readLine number line = .error e → BlamesFirst (fun base marks =>
      isCombining base ∧ ¬ isMark base ∨ base ≠ stem ∧ marks ≠ []) number line e := by
  intro h
  obtain ⟨pre, base, marks, post, found, hsplit, -, -, he, hfound⟩ :=
    h 1 ['\u0335', '\u0301'] (.unknownMark 1 1 '\u0301') (by decide)
  have hclusters : clusters ['\u0335', '\u0301'] = [['\u0335', '\u0301']] := by
    decide
  rw [hclusters] at hsplit
  cases pre with
  | nil =>
    cases hsplit
    cases he
    rcases hfound with ⟨-, hbase⟩ | ⟨hno, -⟩
    · exact absurd hbase (by decide)
    · exact hno (Or.inr ⟨by decide, by decide⟩)
  | cons c pre => simp at hsplit

end Pentimal

end RuneGrid
