import RuneGrid.Proofs.Pentimal.Grammar

/-!
# Clusters as a partition

The clusters of a line are its only partition (`IsPartition`) into pieces of one character and the
combining characters behind it.  So a line that is cut before a character that is not combining
falls into the clusters of its two parts, and what is read from it is what is read from the parts:
the cells of both, or the error of the first part, or else the error of the second part, further to
the right by the clusters of the first one.
-/

namespace RuneGrid

namespace Pentimal

variable {line before after : List Char} {pieces : List (List Char)} {number : Nat}
  {cells cells' : List Char} {e : LoadError}

/-! ### Partitions of a line -/

/-- A line in pieces, each of them one character and the combining characters behind it.  Only the
first piece may start with a combining character. -/
structure IsPartition (line : List Char) (pieces : List (List Char)) : Prop where
  flatten : pieces.flatten = line
  ne_nil : ∀ piece ∈ pieces, piece ≠ []
  combining : ∀ piece ∈ pieces, ∀ c ∈ piece.tail, isCombining c
  bases : ∀ piece ∈ pieces.tail, ∀ c ∈ piece.head?, ¬ isCombining c

theorem isPartition_clusters (line : List Char) : IsPartition line (clusters line) where
  flatten := flatten_clusters line
  ne_nil _ h := ne_nil_of_mem_clusters h
  combining piece h := by
    obtain ⟨pre, post, hsplit⟩ := List.append_of_mem h
    obtain ⟨base, marks, rfl, hmarks, -⟩ := exists_of_clusters_eq hsplit
    exact hmarks
  bases _ h := not_isCombining_head h

/-- What follows the first piece starts as the second one does. -/
theorem head?_flatten_of_ne_nil (h : ∀ piece ∈ pieces, piece ≠ []) :
    pieces.flatten.head? = pieces.head?.bind List.head? := by
  cases pieces with
  | nil => rfl
  | cons piece pieces =>
    rw [List.flatten_cons, List.head?_append_of_ne_nil _ (h piece List.mem_cons_self)]
    rfl

/-- **There is one partition**, piece by piece from the left. -/
theorem IsPartition.eq_clusters (h : IsPartition line pieces) : pieces = clusters line := by
  obtain ⟨rfl, hne, hcombining, hbases⟩ := h
  induction pieces with
  | nil => rfl
  | cons piece pieces ih =>
    rw [List.forall_mem_cons] at hne hcombining
    rw [List.tail_cons] at hbases
    obtain ⟨base, marks, rfl⟩ := List.exists_cons_of_ne_nil hne.1
    have hmarks : ∀ m ∈ marks, isCombining m := hcombining.1
    have hcut : ∀ c ∈ pieces.flatten.head?, ¬ isCombining c := by
      intro c hc
      rw [head?_flatten_of_ne_nil hne.2, Option.mem_def, Option.bind_eq_some_iff] at hc
      obtain ⟨next, hnext, hc⟩ := hc
      exact hbases next (List.mem_of_mem_head? hnext) c hc
    rw [List.flatten_cons, clusters_append hcut, clusters_of_marks hmarks, List.singleton_append]
    congr 1
    exact ih hne.2 hcombining.2 fun next hnext => hbases next (List.mem_of_mem_tail hnext)

/-! ### A line in two parts -/

theorem readLine_append_of_ok (hcut : ∀ c ∈ after.head?, ¬ isCombining c)
    (hbefore : readLine number before = .ok cells) (hafter : readLine number after = .ok cells') :
    readLine number (before ++ after) = .ok (cells ++ cells') := by
  rw [readLine_eq_ok_iff] at hbefore hafter ⊢
  rw [clusters_append hcut]
  exact List.rel_append hbefore hafter

theorem readLine_append_of_error (hcut : ∀ c ∈ after.head?, ¬ isCombining c)
    (hbefore : readLine number before = .error e) :
    readLine number (before ++ after) = .error e := by
  obtain ⟨pre, cluster, post, found, hsplit, hpre, hfound, rfl⟩ := exists_of_readLine_error hbefore
  have hclusters : clusters (before ++ after) = pre ++ cluster :: (post ++ clusters after) := by
    rw [clusters_append hcut, hsplit, List.append_assoc, List.cons_append]
  exact readLine_eq_error hclusters hpre hfound

theorem readLine_append_of_ok_of_error (hcut : ∀ c ∈ after.head?, ¬ isCombining c)
    (hbefore : readLine number before = .ok cells) (hafter : readLine number after = .error e) :
    ∃ column found, e = .unknownMark number column found ∧ readLine number (before ++ after) =
      .error (.unknownMark number (column + (clusters before).length) found) := by
  obtain ⟨pre, cluster, post, found, hsplit, hpre, hfound, rfl⟩ := exists_of_readLine_error hafter
  refine ⟨pre.length + 1, found, rfl, ?_⟩
  have hclusters : clusters (before ++ after) = (clusters before ++ pre) ++ cluster :: post := by
    rw [clusters_append hcut, hsplit, List.append_assoc]
  have hread : ∀ c ∈ clusters before ++ pre, ∃ cell, readCluster c = .ok cell := by
    intro c hc
    rcases List.mem_append.1 hc with hc | hc
    · exact exists_readLine_iff.1 ⟨cells, hbefore⟩ c hc
    · exact hpre c hc
  have hcolumn :
      (clusters before ++ pre).length + 1 = pre.length + 1 + (clusters before).length := by
    rw [List.length_append]
    omega
  rw [readLine_eq_error hclusters hread hfound, hcolumn]

/-- **The clusters are the only partition of a line.**  A line that is cut before a character that
is not combining falls into the clusters of its parts.  It reads as the cells of the two parts, if
both can be read; otherwise the error is that of the first part, or that of the second one with its
column counted from the start of the line. -/
theorem clusters_unique (line : List Char) :
    IsPartition line (clusters line) ∧
    (∀ pieces, IsPartition line pieces → pieces = clusters line) ∧
    ∀ before after, line = before ++ after → (∀ c ∈ after.head?, ¬ isCombining c) →
      clusters line = clusters before ++ clusters after ∧
      ∀ number,
        (∀ cells cells', readLine number before = .ok cells → readLine number after = .ok cells' →
          readLine number line = .ok (cells ++ cells')) ∧
        (∀ e, readLine number before = .error e → readLine number line = .error e) ∧
        ∀ cells e, readLine number before = .ok cells → readLine number after = .error e →
          ∃ column found, e = .unknownMark number column found ∧ readLine number line =
            .error (.unknownMark number (column + (clusters before).length) found) := by
  refine ⟨isPartition_clusters line, fun _ h => h.eq_clusters, ?_⟩
  rintro before after rfl hcut
  refine ⟨clusters_append hcut, fun number =>
    ⟨fun cells cells' => ?_, fun e => ?_, fun cells e => ?_⟩⟩
  · exact readLine_append_of_ok hcut
  · exact readLine_append_of_error hcut
  · exact readLine_append_of_ok_of_error hcut

/-- A mark that leads its line and a numeral can be read, a mark on a rune that cannot carry it
cannot.  This comes two columns further to the right behind them, and whatever follows it does not
matter. -/
theorem clusters_of_parts :
    clusters ['\u0335', 'ᛁ', '\u0333', 'ᚠ', '\u0304'] =
      [['\u0335'], ['ᛁ', '\u0333'], ['ᚠ', '\u0304']] ∧
    readLine 3 ['\u0335', 'ᛁ', '\u0333'] = .ok ['\u0335', '1'] ∧
    readLine 3 ['ᚠ', '\u0304'] = .error (.unknownMark 3 1 'ᚠ') ∧
    readLine 3 ['\u0335', 'ᛁ', '\u0333', 'ᚠ', '\u0304'] = .error (.unknownMark 3 3 'ᚠ') ∧
    readLine 3 ['\u0335', 'ᛁ', '\u0333', 'ᚠ', '\u0304', 'ᚢ'] = .error (.unknownMark 3 3 'ᚠ') := by
  obtain ⟨-, -, hnumeral⟩ := clusters_unique ['\u0335', 'ᛁ', '\u0333']
  obtain ⟨-, hunique, hspoilt⟩ := clusters_unique ['\u0335', 'ᛁ', '\u0333', 'ᚠ', '\u0304']
  obtain ⟨-, -, hlonger⟩ := clusters_unique ['\u0335', 'ᛁ', '\u0333', 'ᚠ', '\u0304', 'ᚢ']
  have hbase : ∀ base rest, ¬ isCombining base → ∀ c ∈ (base :: rest).head?, ¬ isCombining c := by
    rintro base rest h c ⟨⟩
    exact h
  have hpartition : IsPartition ['\u0335', 'ᛁ', '\u0333', 'ᚠ', '\u0304']
      [['\u0335'], ['ᛁ', '\u0333'], ['ᚠ', '\u0304']] := by
    refine ⟨rfl, by decide, ?_, ?_⟩
    · simp only [List.forall_mem_cons, List.tail_cons]
      exact ⟨nofun, ⟨by decide, nofun⟩, ⟨by decide, nofun⟩, nofun⟩
    · simp only [List.forall_mem_cons, List.tail_cons]
      exact ⟨hbase _ _ (by decide), hbase _ _ (by decide), nofun⟩
  have hread : readLine 3 ['\u0335', 'ᛁ', '\u0333'] = .ok ['\u0335', '1'] := by
    obtain ⟨-, hparts⟩ := hnumeral ['\u0335'] ['ᛁ', '\u0333'] rfl (hbase _ _ (by decide))
    exact (hparts 3).1 ['\u0335'] ['1'] (by decide) (by decide)
  have herror : readLine 3 ['ᚠ', '\u0304'] = .error (.unknownMark 3 1 'ᚠ') := by decide
  obtain ⟨-, hparts⟩ :=
    hspoilt ['\u0335', 'ᛁ', '\u0333'] ['ᚠ', '\u0304'] rfl (hbase _ _ (by decide))
  obtain ⟨column, found, he, hline⟩ := (hparts 3).2.2 _ _ hread herror
  cases he
  refine ⟨(hunique _ hpartition).symm, hread, herror, hline, ?_⟩
  obtain ⟨-, hparts⟩ :=
    hlonger ['\u0335', 'ᛁ', '\u0333', 'ᚠ', '\u0304'] ['ᚢ'] rfl (hbase _ _ (by decide))
  exact (hparts 3).2.1 _ hline

end Pentimal

end RuneGrid
