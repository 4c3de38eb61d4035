import Mathlib.Tactic.Common
import RuneGrid.Text.Blank
import RuneGrid.Text.Line

/-!
# Lines by their place, and how they end

With a line feed after its last line as well (`closed`), a text is its lines with a line feed after
each of them (`flatMap_lines`).  So there are as many lines as line feeds (`length_lines`), and the
line with some number is what stands between two of them (`IsLine`, `isLine_iff`).

The white space at the ends of the lines does not count for a reader of `trimmedLines`.  These are
determined from the end of the text on (`trimmedLines_append_congr`), so whatever is changed at one
place needs to be looked at there only.  `Respaced` collects such changes.
-/

namespace RuneGrid

namespace Text

variable {text text' before after line blanks : List Char} {rows : List (List Char)} {number : Nat}

/-! ### Lines by their place -/

/-- Whether a text ends within a line: it is not empty, and no line feed ends it. -/
def isOpen (text : List Char) : Bool :=
  text.getLast?.any (· ≠ '\n')

/-- The text with a line feed after its last line, too. -/
def closed (text : List Char) : List Char :=
  if isOpen text then text ++ ['\n'] else text

theorem isOpen_iff : isOpen text ↔ ∃ init c, text = init ++ [c] ∧ c ≠ '\n' := by
  rw [isOpen, Option.any_eq_true]
  simp only [List.getLast?_eq_some_iff, decide_eq_true_eq]
  constructor
  · rintro ⟨c, ⟨init, rfl⟩, hc⟩
    exact ⟨init, c, rfl, hc⟩
  · rintro ⟨init, c, rfl, hc⟩
    exact ⟨c, ⟨init, rfl⟩, hc⟩

theorem isOpen_cons (c : Char) (h : text ≠ []) : isOpen (c :: text) = isOpen text := by
  obtain ⟨d, text, rfl⟩ := List.exists_cons_of_ne_nil h
  rw [isOpen, isOpen, List.getLast?_cons_cons]

theorem closed_cons (c : Char) (h : text ≠ []) : closed (c :: text) = c :: closed text := by
  rw [closed, closed, isOpen_cons c h]
  split <;> rfl

/-- **A text is its lines**, each with a line feed after it. -/
theorem flatMap_lines (text : List Char) : (lines text).flatMap (· ++ ['\n']) = closed text := by
  induction text with
  | nil => rfl
  | cons c text ih =>
    by_cases htext : text = []
    · subst htext
      by_cases hc : c = '\n' <;> simp [lines_cons, consLine, closed, isOpen, hc]
    · rw [closed_cons c htext, ← ih, lines_cons]
      unfold consLine
      split
      · next hc => rw [hc, List.flatMap_cons, List.nil_append, List.singleton_append]
      · split
        · next hlines => exact absurd (lines_eq_nil_iff.1 hlines) htext
        · next hlines => rw [hlines, List.flatMap_cons, List.flatMap_cons]; rfl

theorem lines_flatMap_append (h : ∀ row ∈ rows, '\n' ∉ row) (text : List Char) :
    lines (rows.flatMap (· ++ ['\n']) ++ text) = rows ++ lines text := by
  induction rows with
  | nil => rfl
  | cons row rows ih =>
    obtain ⟨hrow, hrows⟩ := List.forall_mem_cons.1 h
    rw [List.flatMap_cons, List.append_assoc, List.append_assoc, List.singleton_append,
      lines_append_newline hrow, ih hrows, List.cons_append]

theorem lines_flatMap (h : ∀ row ∈ rows, '\n' ∉ row) :
    lines (rows.flatMap (· ++ ['\n'])) = rows := by
  simpa using lines_flatMap_append h []

theorem lines_closed (text : List Char) : lines (closed text) = lines text := by
  rw [← flatMap_lines, lines_flatMap fun _ h => newline_notMem_of_mem_lines h]

theorem count_flatMap (h : ∀ row ∈ rows, '\n' ∉ row) :
    (rows.flatMap (· ++ ['\n'])).count '\n' = rows.length := by
  induction rows with
  | nil => rfl
  | cons row rows ih =>
    obtain ⟨hrow, hrows⟩ := List.forall_mem_cons.1 h
    rw [List.flatMap_cons, List.count_append, List.count_append, List.count_eq_zero.2 hrow,
      ih hrows, List.length_cons, List.count_singleton_self]
    omega

/-- **There are as many lines as line feeds**, and one more if the text ends within a line. -/
theorem length_lines (text : List Char) :
    (lines text).length = text.count '\n' + if isOpen text then 1 else 0 := by
  rw [← count_flatMap fun _ h => newline_notMem_of_mem_lines h, flatMap_lines, closed]
  split
  · rw [List.count_append, List.count_singleton_self]
  · rfl

/-- The line with a number, from 1: a text without line feeds, between two of them or at the start,
that has as many line feeds before it as there are lines before it. -/
structure IsLine (text : List Char) (number : Nat) (line : List Char) : Prop where
  newline_notMem : '\n' ∉ line
  place : ∃ before after, closed text = before ++ line ++ '\n' :: after ∧
    (∀ c ∈ before.getLast?, c = '\n') ∧ before.count '\n' + 1 = number

theorem isLine_iff : IsLine text number line ↔
    ∃ pre post, lines text = pre ++ line :: post ∧ number = pre.length + 1 := by
  constructor
  · rintro ⟨hline, before, after, hsplit, hbefore, rfl⟩
    have hopen : ¬ isOpen before := by
      rw [isOpen_iff]
      rintro ⟨init, c, rfl, hc⟩
      exact hc (hbefore c (by simp))
    have hclosed : (lines before).flatMap (· ++ ['\n']) = before := by
      rw [flatMap_lines, closed, if_neg hopen]
    refine ⟨lines before, lines after, ?_, ?_⟩
    · rw [← lines_closed, hsplit, ← hclosed, List.append_assoc,
        lines_flatMap_append fun _ h => newline_notMem_of_mem_lines h, hclosed,
        lines_append_newline hline]
    · rw [length_lines, if_neg hopen]
  · rintro ⟨pre, post, hsplit, rfl⟩
    have hnewline : ∀ row ∈ pre ++ line :: post, '\n' ∉ row := by
      intro row hrow
      rw [← hsplit] at hrow
      exact newline_notMem_of_mem_lines hrow
    rw [List.forall_mem_append, List.forall_mem_cons] at hnewline
    obtain ⟨hpre, hline, -⟩ := hnewline
    refine ⟨hline, pre.flatMap (· ++ ['\n']), post.flatMap (· ++ ['\n']), ?_, ?_, ?_⟩
    · rw [← flatMap_lines, hsplit, List.flatMap_append, List.flatMap_cons]
      simp
    · intro c hc
      obtain ⟨row, -, hlast⟩ := List.exists_of_findSome?_eq_some (List.getLast?_flatMap ▸ hc)
      simpa using hlast.symm
    · rw [count_flatMap hpre]

/-! ### Lines without the white space at their ends -/

theorem trimEnd_append_trimEnd (before cs : List Char) :
    trimEnd (before ++ trimEnd cs) = trimEnd (before ++ cs) := by
  obtain ⟨blanks, hsplit, hblanks⟩ := exists_blanks cs
  calc trimEnd (before ++ trimEnd cs)
    _ = trimEnd ((before ++ trimEnd cs) ++ blanks) := (trimEnd_append_of_isBlank hblanks).symm
    _ = trimEnd (before ++ cs) := by rw [List.append_assoc, ← hsplit]

/-- The lines as a reader of sources takes them. -/
def trimmedLines (text : List Char) : List (List Char) :=
  (lines text).map trimEnd

theorem trimmedLines_newline (text : List Char) :
    trimmedLines ('\n' :: text) = [] :: trimmedLines text := rfl

theorem trimmedLines_cons (c : Char) (text : List Char) :
    trimmedLines (c :: text) = if c = '\n' then [] :: trimmedLines text
      else match trimmedLines text with
        | [] => [trimEnd [c]]
        | line :: rest => trimEnd (c :: line) :: rest := by
  rw [trimmedLines, trimmedLines, lines_cons]
  unfold consLine
  split
  · rfl
  · cases lines text with
    | nil => rfl
    | cons line rest =>
      have hline : trimEnd (c :: trimEnd line) = trimEnd (c :: line) :=
        trimEnd_append_trimEnd [c] line
      simp only [List.map_cons, hline]

/-- **From the end of the text on**, the trimmed lines determine those of whatever ends like it. -/
theorem trimmedLines_append_congr (before : List Char)
    (h : trimmedLines text = trimmedLines text') :
    trimmedLines (before ++ text) = trimmedLines (before ++ text') := by
  induction before with
  | nil => exact h
  | cons c before ih =>
    rw [List.cons_append, List.cons_append, trimmedLines_cons, trimmedLines_cons, ih]

/-- Characters that may stand at the end of a line without making a difference. -/
def IsPadding (blanks : List Char) : Prop :=
  ∀ c ∈ blanks, isBlank c ∧ c ≠ '\n'

theorem IsPadding.trimEnd_append (h : IsPadding blanks) (line : List Char) :
    trimEnd (line ++ blanks) = trimEnd line :=
  trimEnd_append_of_isBlank fun c hc => (h c hc).1

theorem IsPadding.newline_notMem (h : IsPadding blanks) : '\n' ∉ blanks :=
  fun hmem => (h _ hmem).2 rfl

theorem trimmedLines_padding (h : IsPadding blanks) (after : List Char) :
    trimmedLines (blanks ++ '\n' :: after) = trimmedLines ('\n' :: after) := by
  rw [trimmedLines, lines_append_newline h.newline_notMem, List.map_cons]
  exact congrArg (· :: trimmedLines after) (h.trimEnd_append [])

theorem lines_of_notMem (hne : line ≠ []) (h : '\n' ∉ line) : lines line = [line] := by
  have hopen : isOpen line := by
    rw [isOpen_iff]
    refine ⟨line.dropLast, line.getLast hne, (List.dropLast_concat_getLast hne).symm, ?_⟩
    rintro hlast
    exact h (hlast ▸ List.getLast_mem hne)
  rw [← lines_closed, closed, if_pos hopen]
  exact lines_append_newline h []

theorem trimmedLines_append_padding (hopen : isOpen text) (h : IsPadding blanks) :
    trimmedLines (text ++ blanks) = trimmedLines text := by
  obtain ⟨init, c, rfl, hc⟩ := isOpen_iff.1 hopen
  rw [List.append_assoc]
  apply trimmedLines_append_congr
  have hlast : '\n' ∉ [c] := fun hmem => hc (List.mem_singleton.1 hmem).symm
  have hnewline : '\n' ∉ [c] ++ blanks :=
    fun hmem => (List.mem_append.1 hmem).elim hlast h.newline_notMem
  rw [trimmedLines, trimmedLines, lines_of_notMem (List.append_ne_nil_of_left_ne_nil (by simp) _)
    hnewline, lines_of_notMem (List.cons_ne_nil _ _) hlast]
  exact congrArg (fun line => [line]) (h.trimEnd_append [c])

/-- The text with a carriage return before every line feed. -/
def withReturns (text : List Char) : List Char :=
  text.flatMap fun c => if c = '\n' then ['\r', '\n'] else [c]

theorem trimmedLines_withReturns (text : List Char) :
    trimmedLines (withReturns text) = trimmedLines text := by
  induction text with
  | nil => rfl
  | cons c text ih =>
    have hreturn : IsPadding ['\r'] := List.forall_mem_singleton.2 (by decide)
    have hcons : withReturns (c :: text) =
        (if c = '\n' then ['\r', '\n'] else [c]) ++ withReturns text := List.flatMap_cons
    rw [hcons]
    split
    · next hc =>
      rw [hc, List.cons_append, List.singleton_append, ← List.singleton_append,
        trimmedLines_padding hreturn, trimmedLines_newline, trimmedLines_newline, ih]
    · exact trimmedLines_append_congr [c] ih

/-- The ways to change a text at the ends of its lines only: there is white space put in before
line feeds or at the end, or a last line feed. -/
inductive Respaced : List Char → List Char → Prop
  | returns (text : List Char) : Respaced text (withReturns text)
  | newline (before : List Char) {blanks : List Char} (after : List Char) (h : IsPadding blanks) :
    Respaced (before ++ '\n' :: after) (before ++ blanks ++ '\n' :: after)
  | last {text blanks : List Char} (hopen : isOpen text) (h : IsPadding blanks) :
    Respaced text (text ++ blanks)
  | close {text : List Char} (hopen : isOpen text) : Respaced text (text ++ ['\n'])

/-- None of them changes the trimmed lines. -/
theorem Respaced.trimmedLines_eq (h : Respaced text text') :
    trimmedLines text' = trimmedLines text := by
  cases h with
  | returns => exact trimmedLines_withReturns text
  | newline before after h =>
    rw [List.append_assoc]
    exact trimmedLines_append_congr before (trimmedLines_padding h after)
  | last hopen h => exact trimmedLines_append_padding hopen h
  | close hopen =>
    have hclosed : closed text = text ++ ['\n'] := if_pos hopen
    rw [trimmedLines, ← hclosed, lines_closed, trimmedLines]

end Text

end RuneGrid
