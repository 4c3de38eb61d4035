import RuneGrid.Proofs.Pentimal.Grammar
import RuneGrid.Proofs.Program
import RuneGrid.Proofs.Text.Lines

/-!
# Reading a listing back

A grid that has been read from a source is listed row by row, with a line feed after each row.  The
listing is a source for the same grid, because nothing in a row that has been read is special any
more.  `IsPlain` says what this means for a cell, by its place in the row: it is no line feed, it is
a combining character only at the front, and there only a mark of the table, and it is no white
space at the end.

* `IsPlain.of_readLine`: every row that is read is plain.
* `IsPlain.readLine_eq`, `IsPlain.trimEnd_eq`, `Grid.lines_listing`: a plain row is its own line, is
  not trimmed, and reads as itself.

`Grid.listing_reads_back` puts the two together.
-/

namespace RuneGrid

/-- The item of one list that belongs to an item of the other, with its place. -/
theorem exists_split_of_forall₂ {α β : Type} {R : α → β → Prop} {as : List α} {pre post : List β}
    {b : β} (h : List.Forall₂ R as (pre ++ b :: post)) :
    ∃ before a after, as = before ++ a :: after ∧ R a b ∧ List.Forall₂ R before pre ∧
      List.Forall₂ R after post := by
  induction pre generalizing as with
  | nil =>
    cases h with
    | cons hab hrest => exact ⟨[], _, _, rfl, hab, .nil, hrest⟩
  | cons c pre ih =>
    cases h with
    | cons hc hrest =>
      obtain ⟨before, a, after, rfl, hab, hpre, hpost⟩ := ih hrest
      exact ⟨_ :: before, a, after, rfl, hab, .cons hc hpre, hpost⟩

namespace Pentimal

variable {line row : List Char} {number : Nat} {c : Char}

/-! ### Plain rows -/

/-- A row in which every cell reads as itself wherever it stands. -/
def IsPlain (row : List Char) : Prop :=
  ∀ pre c post, row = pre ++ c :: post →
    c ≠ '\n' ∧ (isCombining c → pre = [] ∧ isMark c) ∧ (Text.isBlank c → post ≠ [])

theorem newline_not_ofDigit (d : Fin 16) : Glyph.ofDigit d ≠ '\n' := by
  revert d
  decide

theorem not_isBlank_ofDigit (d : Fin 16) : ¬ Text.isBlank (Glyph.ofDigit d) := by
  revert d
  decide

/-- **What is read from a line is plain**, if the line has no line feed and no white space at its
end. -/
theorem IsPlain.of_readLine (hnewline : '\n' ∉ line)
    (hlast : ∀ c ∈ line.getLast?, ¬ Text.isBlank c) (h : readLine number line = .ok row) :
    IsPlain row := by
  rintro pre c post rfl
  obtain ⟨before, cluster, after, hsplit, hread, hpre, hpost⟩ :=
    exists_split_of_forall₂ ((readLine_eq_ok_iff.1 h).imp fun _ _ hc => ReadsAs.of_ok hc)
  obtain ⟨base, marks, rfl, -, hbase, hline, -⟩ := exists_of_clusters_eq hsplit
  cases hread with
  | plain _ hmark =>
    refine ⟨?_, fun hc => ⟨?_, hmark hc⟩, ?_⟩
    · rintro rfl
      apply hnewline
      rw [hline]
      simp
    · -- only the first cluster starts with a combining character
      by_contra hne
      refine hbase ?_ hc
      rintro rfl
      exact hne (List.forall₂_nil_left_iff.1 hpre)
    · rintro hblank rfl
      rw [List.forall₂_nil_right_iff] at hpost
      subst hpost
      refine hlast c ?_ hblank
      rw [hline]
      simp
  | numeral _ _ d =>
    refine ⟨newline_not_ofDigit d, fun hc => ?_, fun hc => ?_⟩
    · exact absurd hc (not_isCombining_ofDigit d)
    · exact absurd hc (not_isBlank_ofDigit d)

namespace IsPlain

theorem newline_notMem (h : IsPlain row) : '\n' ∉ row := by
  intro hmem
  obtain ⟨pre, post, hsplit⟩ := List.append_of_mem hmem
  exact (h pre '\n' post hsplit).1 rfl

theorem trimEnd_eq (h : IsPlain row) : Text.trimEnd row = row := by
  refine Text.trimEnd_eq_self fun c hc hblank => ?_
  obtain ⟨pre, hsplit⟩ := List.getLast?_eq_some_iff.1 hc
  exact (h pre c [] hsplit).2.2 hblank rfl

theorem not_isCombining_of_mem_tail (h : IsPlain row) (hc : c ∈ row.tail) : ¬ isCombining c := by
  intro hcomb
  cases row with
  | nil => cases hc
  | cons first row =>
    obtain ⟨pre, post, rfl⟩ := List.append_of_mem hc
    exact absurd ((h (first :: pre) c post rfl).2.1 hcomb).1 (List.cons_ne_nil _ _)

end IsPlain

/-- Without combining characters behind the first one, every character is a cluster. -/
theorem clusters_eq_map (h : ∀ c ∈ row.tail, ¬ isCombining c) :
    clusters row = row.map fun c => [c] := by
  induction row with
  | nil => rfl
  | cons c row ih =>
    have hhead : ∀ d ∈ row.head?, ¬ isCombining d := fun d hd => h d (List.mem_of_mem_head? hd)
    have htail : ∀ d ∈ row.tail, ¬ isCombining d := fun d hd => h d (List.mem_of_mem_tail hd)
    have hsplit : clusters ([c] ++ row) = clusters [c] ++ clusters row := clusters_append hhead
    calc clusters (c :: row)
      _ = clusters [c] ++ clusters row := hsplit
      _ = [[c]] ++ row.map fun c => [c] := by rw [clusters_of_marks (List.forall_mem_nil _), ih htail]
      _ = (c :: row).map fun c => [c] := rfl

/-- **A plain row reads as itself.** -/
theorem IsPlain.readLine_eq (h : IsPlain row) (number : Nat) : readLine number row = .ok row := by
  rw [readLine_eq_ok_iff, clusters_eq_map fun _ hc => h.not_isCombining_of_mem_tail hc,
    List.forall₂_map_left_iff, List.forall₂_same]
  intro c hc
  obtain ⟨pre, post, hsplit⟩ := List.append_of_mem hc
  obtain ⟨-, hcomb, -⟩ := h pre c post hsplit
  rw [readCluster_single, if_neg fun hbad => hbad.2 (hcomb hbad.1).2]

end Pentimal

namespace Grid

variable {g : Grid} {source : String}

/-! ### The listing -/

/-- The rows as text, each with a line feed after it. -/
def listing (g : Grid) : String :=
  String.join (g.render.map (· ++ "\n"))

theorem toList_listing (g : Grid) : g.listing.toList = g.rows.flatMap (· ++ ['\n']) := by
  rw [listing, render, String.toList_join, List.map_map, List.flatMap_map]
  refine List.flatMap_congr fun row _ => ?_
  simp

/-- The lines of a listing are its rows. -/
theorem lines_listing (h : ∀ row ∈ g.rows, '\n' ∉ row) : Text.lines g.listing.toList = g.rows := by
  rw [toList_listing, Text.lines_flatMap h]

/-- A source reads as the grid whose rows its lines read as. -/
theorem parse_eq_ok_iff : parse source = .ok g ↔
    List.Forall₂ (fun line row => Pentimal.readLine line.2 (Text.trimEnd line.1) = .ok row)
      ((Text.lines source.toList).zipIdx 1) g.rows := by
  rw [← mapM_eq_ok_iff, parse]
  cases ((Text.lines source.toList).zipIdx 1).mapM fun line =>
      Pentimal.readLine line.2 (Text.trimEnd line.1) with
  | error e => exact ⟨nofun, nofun⟩
  | ok rows =>
    constructor
    · intro h
      exact congrArg Except.ok (ofRows_eq_ok_iff.1 h).symm
    · intro h
      exact ofRows_eq_ok_iff.2 (Except.ok.inj h).symm

/-- Every row of a grid that is read from a source is plain. -/
theorem isPlain_of_parse (h : parse source = .ok g) : ∀ row ∈ g.rows, Pentimal.IsPlain row := by
  intro row hrow
  obtain ⟨pre, post, hsplit⟩ := List.append_of_mem hrow
  rw [parse_eq_ok_iff, hsplit] at h
  obtain ⟨before, ⟨line, number⟩, after, hlines, hread, -, -⟩ := exists_split_of_forall₂ h
  obtain ⟨hlines, -⟩ := eq_of_zipIdx_eq hlines
  have hline : line ∈ Text.lines source.toList := by
    rw [hlines]
    simp
  refine .of_readLine (fun hmem => ?_) Text.not_isBlank_of_getLast?_trimEnd hread
  exact Text.newline_notMem_of_mem_lines hline ((Text.trimEnd_prefix line).subset hmem)

/-- A listing of plain rows reads as its grid. -/
theorem parse_listing_of_isPlain (h : ∀ row ∈ g.rows, Pentimal.IsPlain row) :
    parse g.listing = .ok g := by
  rw [parse_eq_ok_iff, lines_listing fun row hrow => (h row hrow).newline_notMem]
  conv => rhs; rw [← List.zipIdx_map_fst 1 g.rows]
  rw [List.forall₂_map_right_iff, List.forall₂_same]
  rintro ⟨row, number⟩ hmem
  have hrow : row ∈ g.rows := List.fst_mem_of_mem_zipIdx hmem
  rw [(h row hrow).trimEnd_eq, (h row hrow).readLine_eq]

/-- **A listing reads as the grid that it lists**, if that has been read from a source: it loads as
the same program as the source does. -/
theorem listing_reads_back (h : parse source = .ok g) :
    parse g.listing = .ok g ∧
      ∃ program, Program.load source = .ok program ∧ Program.load g.listing = .ok program ∧
        program.grid = g ∧ program.pointers = g.pointers := by
  have hback : parse g.listing = .ok g := parse_listing_of_isPlain (isPlain_of_parse h)
  refine ⟨hback, .ofGrid g, ?_, ?_, rfl, rfl⟩
  · rw [Program.load, h]
    rfl
  · rw [Program.load, hback]
    rfl

/-- A text with a numeral, an empty line, and a line that starts with a mark and has a carriage
return inside. -/
def motleyText : List Char :=
  ['ᛌ', 'ᛁ', '\u0333', 'ᚭ', 'ᛧ', ' ', '\r', '\n', '\n', '\u0335', '\r', 'ᚠ']

/-- What `motleyText` describes. -/
def motley : Grid :=
  ⟨[['ᛌ', '1', 'ᚭ', 'ᛧ'], [], ['\u0335', '\r', 'ᚠ']], by decide⟩

theorem motley_listing_reads_back :
    parse (.ofList motleyText) = .ok motley ∧ parse motley.listing = .ok motley := by
  have hparse : parse (.ofList motleyText) = .ok motley := by
    rw [parse_eq_ok_iff, String.toList_ofList]
    decide +kernel
  exact ⟨hparse, (listing_reads_back hparse).1⟩

end Grid

end RuneGrid
