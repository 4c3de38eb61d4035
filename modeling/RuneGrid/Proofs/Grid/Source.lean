import Mathlib.Order.Bounds.Basic
import RuneGrid.Proofs.Grid.Listing

/-!
# Sources line by line

A source is read from its trimmed lines (`parse_eq_of_trimmedLines`), so respacing it changes
neither the grid nor the error.  It has one row for each line, and the error is that of the first
line that cannot be read: its number is the least one of such a line (`isLeast_of_parse_error`).
Whether a line can be read does not depend on its number.

`parse_line_by_line` puts this together.
-/

namespace RuneGrid

namespace Grid

variable {g : Grid} {source source' : String} {e : LoadError} {number : Nat}

/-- A source is read from its trimmed lines. -/
theorem parse_eq (source : String) : parse source =
    (((Text.trimmedLines source.toList).zipIdx 1).mapM fun line =>
      Pentimal.readLine line.2 line.1) >>= ofRows := by
  rw [parse, Text.trimmedLines, List.zipIdx_map, List.mapM_map]
  rfl

theorem parse_eq_of_trimmedLines
    (h : Text.trimmedLines source.toList = Text.trimmedLines source'.toList) :
    parse source = parse source' := by
  rw [parse_eq, parse_eq, h]

/-! ### Rows -/

theorem parse_empty : parse "" = .error .emptySource := rfl

/-- There is one row for each line. -/
theorem height_of_parse (h : parse source = .ok g) :
    g.height = (Text.lines source.toList).length := by
  have hlength := (parse_eq_ok_iff.1 h).length_eq
  rw [List.length_zipIdx] at hlength
  exact hlength.symm

theorem ne_empty_of_parse (h : parse source = .ok g) : source ≠ "" := by
  rintro rfl
  rw [parse_empty] at h
  cases h

/-! ### The line to blame -/

/-- The error of a source that is not empty is that of a line, and all lines before it can be
read. -/
theorem exists_line_of_parse_error (hs : source ≠ "") (h : parse source = .error e) :
    ∃ pre line post, Text.lines source.toList = pre ++ line :: post ∧
      (∀ l ∈ pre, ∀ n, ∃ cells, Pentimal.readLine n (Text.trimEnd l) = .ok cells) ∧
      Pentimal.readLine (pre.length + 1) (Text.trimEnd line) = .error e := by
  have hlines : Text.lines source.toList ≠ [] := by
    rw [Ne, Text.lines_eq_nil_iff, String.toList_eq_nil_iff]
    exact hs
  rcases eq_error_of_bind h with hread | ⟨rows, hread, hrows⟩
  · obtain ⟨pre, ⟨line, number⟩, post, hnumbered, hpre, hline⟩ := exists_of_mapM_error hread
    obtain ⟨hsplit, rfl⟩ := eq_of_zipIdx_eq hnumbered
    refine ⟨_, line, _, hsplit, fun l hl n => ?_, ?_⟩
    · obtain ⟨⟨l, m⟩, hmem, rfl⟩ := List.mem_map.1 hl
      rw [Pentimal.exists_readLine_iff]
      exact Pentimal.exists_readLine_iff.1 (hpre _ hmem)
    · rwa [List.length_map, Nat.add_comm]
  · -- there is a row for each line, so there are rows
    have hlength := (mapM_eq_ok_iff.1 hread).length_eq
    have hne : rows ≠ [] := by
      rintro rfl
      rw [List.length_zipIdx, List.length_nil, List.length_eq_zero_iff] at hlength
      exact hlines hlength
    rw [ofRows, dif_neg hne] at hrows
    cases hrows

theorem parse_eq_emptySource_iff : parse source = .error .emptySource ↔ source = "" := by
  constructor
  · intro h
    by_contra hs
    obtain ⟨pre, line, post, -, -, hline⟩ := exists_line_of_parse_error hs h
    obtain ⟨_, _, _, _, -, -, -, he⟩ := Pentimal.exists_of_readLine_error hline
    cases he
  · rintro rfl
    exact parse_empty

/-- The line of the source with this number, from 1, cannot be read. -/
def IsUnreadable (source : String) (number : Nat) : Prop :=
  ∃ line, Text.IsLine source.toList number line ∧
    ¬ ∃ cells, Pentimal.readLine number (Text.trimEnd line) = .ok cells

theorem not_isUnreadable_of_parse (h : parse source = .ok g) : ¬ IsUnreadable source number := by
  rintro ⟨line, hplace, hline⟩
  obtain ⟨pre, post, hsplit, rfl⟩ := Text.isLine_iff.1 hplace
  rw [parse_eq_ok_iff, hsplit, List.zipIdx_append, List.zipIdx_cons, ← mapM_eq_ok_iff] at h
  obtain ⟨cells, hcells⟩ := exists_mapM_iff.1 ⟨_, h⟩ (line, 1 + pre.length) (by simp)
  exact hline ⟨cells, by rwa [Nat.add_comm] at hcells⟩

/-- **The error names the first line that cannot be read.** -/
theorem isLeast_of_parse_error (hs : source ≠ "") (h : parse source = .error e) :
    IsLeast {n | IsUnreadable source n} e.line := by
  obtain ⟨pre, line, post, hsplit, hpre, herror⟩ := exists_line_of_parse_error hs h
  obtain ⟨_, _, _, found, -, -, -, rfl⟩ := Pentimal.exists_of_readLine_error herror
  refine ⟨⟨line, Text.isLine_iff.2 ⟨pre, post, hsplit, rfl⟩, ?_⟩, ?_⟩
  · rintro ⟨cells, hcells⟩
    cases herror.symm.trans hcells
  · rintro n ⟨line', hplace, hline'⟩
    obtain ⟨pre', post', hsplit', rfl⟩ := Text.isLine_iff.1 hplace
    refine Nat.succ_le_succ (Nat.le_of_not_lt fun hlt => hline' ?_)
    -- an earlier line can be read
    have hmem : line' ∈ pre := by
      have hget : (pre ++ line :: post)[pre'.length]? = some line' := by
        rw [← hsplit, hsplit']
        simp
      rw [List.getElem?_append_left hlt] at hget
      exact List.mem_of_getElem? hget
    exact hpre line' hmem _

/-- **A source is read line by line.**  Only the empty source has no rows; a source that is not
empty can be read if all of its lines can, and then it has as many rows as lines.  Otherwise the
error names the first line that cannot be read.  How the lines end makes no difference: white space
before a line feed or at the end of the last line does not count, nor does a line feed at the end of
it. -/
theorem parse_line_by_line (source : String) :
    (parse source = .error .emptySource ↔ source = "") ∧
    ((∃ g, parse source = .ok g) ↔ source ≠ "" ∧ ∀ n, ¬ IsUnreadable source n) ∧
    (∀ g, parse source = .ok g → g.height =
      source.toList.count '\n' + if Text.isOpen source.toList then 1 else 0) ∧
    (∀ n, IsUnreadable source n →
      ∃ e, parse source = .error e ∧ IsLeast {n | IsUnreadable source n} e.line) ∧
    ∀ source', Text.Respaced source.toList source'.toList → parse source' = parse source := by
  refine ⟨parse_eq_emptySource_iff, ⟨?_, ?_⟩, fun g h => ?_, fun n hn => ?_, fun source' h => ?_⟩
  · rintro ⟨g, h⟩
    exact ⟨ne_empty_of_parse h, fun n => not_isUnreadable_of_parse h⟩
  · rintro ⟨hs, hread⟩
    cases h : parse source with
    | ok g => exact ⟨g, rfl⟩
    | error e => exact absurd (isLeast_of_parse_error hs h).1 (hread _)
  · rw [height_of_parse h, Text.length_lines]
  · cases h : parse source with
    | ok g => exact absurd hn (not_isUnreadable_of_parse h)
    | error e =>
      refine ⟨e, rfl, isLeast_of_parse_error ?_ h⟩
      rintro rfl
      obtain ⟨line, hplace, -⟩ := hn
      obtain ⟨pre, post, hsplit, -⟩ := Text.isLine_iff.1 hplace
      cases pre <;> cases hsplit
  · exact parse_eq_of_trimmedLines h.trimmedLines_eq

/-- A text with two lines that cannot be read, behind one that can. -/
def spoiltText : List Char :=
  ['ᛌ', '\n', 'ᚠ', '\u0335', '\n', 'ᛁ', '\u0301']

/-- `motleyText` has two line feeds and ends within its third line.  The error of `spoiltText` is
that of its second line, although the third one cannot be read either. -/
theorem motley_and_spoilt_line_by_line :
    parse (.ofList motleyText) = .ok motley ∧
    motley.height = motleyText.count '\n' + (if Text.isOpen motleyText then 1 else 0) ∧
    parse (.ofList (Text.withReturns motleyText)) = .ok motley ∧
    parse (.ofList spoiltText) = .error (.unknownMark 2 1 'ᚠ') ∧
    IsUnreadable (.ofList spoiltText) 3 ∧ IsLeast {n | IsUnreadable (.ofList spoiltText) n} 2 ∧
    parse (.ofList (['ᛌ', '\u2028', '\r'] ++ spoiltText.tail)) = .error (.unknownMark 2 1 'ᚠ') := by
  have hmotley : parse (.ofList motleyText) = .ok motley := by
    rw [parse_eq_ok_iff, String.toList_ofList]
    decide +kernel
  have hspoilt : parse (.ofList spoiltText) = .error (.unknownMark 2 1 'ᚠ') := by
    rw [parse, String.toList_ofList]
    rfl
  have hthird : IsUnreadable (.ofList spoiltText) 3 := by
    refine ⟨['ᛁ', '\u0301'], ⟨by decide, ['ᛌ', '\n', 'ᚠ', '\u0335', '\n'], [], ?_, ?_, ?_⟩, ?_⟩
    · rw [String.toList_ofList]
      decide
    · rintro c ⟨⟩
      rfl
    · decide
    · have herror : Pentimal.readLine 3 (Text.trimEnd ['ᛁ', '\u0301']) =
        .error (.unknownMark 3 1 '\u0301') := by decide
      rw [herror]
      rintro ⟨_, ⟨⟩⟩
  obtain ⟨-, -, hheight, -, hsame⟩ := parse_line_by_line (.ofList motleyText)
  obtain ⟨-, -, -, herror, hsame'⟩ := parse_line_by_line (.ofList spoiltText)
  obtain ⟨e, he, hleast⟩ := herror 3 hthird
  cases hspoilt.symm.trans he
  have hheight := hheight motley hmotley
  rw [String.toList_ofList] at hheight hsame hsame'
  refine ⟨hmotley, hheight, (hsame _ ?_).trans hmotley, hspoilt, hthird, hleast,
    (hsame' _ ?_).trans hspoilt⟩
  · rw [String.toList_ofList]
    exact .returns _
  · rw [String.toList_ofList]
    have hpadding : Text.IsPadding ['\u2028', '\r'] :=
      List.forall_mem_cons.2 ⟨by decide, List.forall_mem_singleton.2 (by decide)⟩
    exact .newline ['ᛌ'] _ hpadding

end Grid

end RuneGrid
