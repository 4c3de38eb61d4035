import Mathlib.Tactic.Common
import RuneGrid.Text.Json

/-!
# Reading JSON documents

A reader of documents, whose numbers have no fractions and no exponents.  What it reads of the text
of a value is that value (`Json.readValue?_valueText`), so a document reads back as what has been
written (`Json.read?_document`).

The text of a value is followed by no digit where it stands in a document, as numbers end where the
digits do; behind an item comes a comma or, after white space, the bracket.
-/

namespace RuneGrid

namespace Json

/-- The member of an object under a key. -/
def member? (key : String) : Json → Option Json
  | obj members => members.lookup key
  | _ => none

/-- The truth values and texts among the members stand in `doc` too, under the same keys. -/
def Keeps (j doc : Json) : Prop :=
  ∀ key, (∀ b, j.member? key = some (bool b) → doc.member? key = some (bool b)) ∧
    ∀ s, j.member? key = some (str s) → doc.member? key = some (str s)

/-! ### The reader -/

/-- White space between the parts of a document. -/
def isSpace (c : Char) : Bool :=
  c = ' ' || c = '\n' || c = '\r' || c = '\t'

def skip (cs : List Char) : List Char :=
  cs.dropWhile isSpace

def hexDigit? (c : Char) : Option Nat :=
  if c.isDigit then some (c.toNat - '0'.toNat)
  else if 'a' ≤ c && c ≤ 'f' then some (c.toNat - 'a'.toNat + 10)
  else if 'A' ≤ c && c ≤ 'F' then some (c.toNat - 'A'.toNat + 10)
  else none

/-- The character with the code that four hexadecimal digits spell.  Halves of a pair are none. -/
def coded? (a b c d : Char) : Option Char := do
  let code := (((← hexDigit? a) * 16 + (← hexDigit? b)) * 16 + (← hexDigit? c)) * 16 +
    (← hexDigit? d)
  if code.isValidChar then some (Char.ofNat code) else none

/-- The character that one behind a backslash stands for. -/
def escaped? : Char → Option Char
  | '"' => some '"'
  | '\\' => some '\\'
  | '/' => some '/'
  | 'b' => some '\x08'
  | 'f' => some '\x0c'
  | 'n' => some '\n'
  | 'r' => some '\r'
  | 't' => some '\t'
  | _ => none

/-- Reads a string from behind its first quote, and gives what follows the second. -/
def readString? : List Char → Option (List Char × List Char)
  | [] => none
  | '"' :: cs => some ([], cs)
  | '\\' :: 'u' :: a :: b :: c :: d :: cs => do
    let char ← coded? a b c d
    let (chars, rest) ← readString? cs
    return (char :: chars, rest)
  | '\\' :: c :: cs => do
    let char ← escaped? c
    let (chars, rest) ← readString? cs
    return (char :: chars, rest)
  | c :: cs => do
    if c.toNat < 0x20 then none
    let (chars, rest) ← readString? cs
    return (c :: chars, rest)

def readNat? (cs : List Char) : Option (Nat × List Char) :=
  let digits := cs.takeWhile Char.isDigit
  if digits = [] then none
  else some (Nat.ofDigitChars 10 digits 0, cs.dropWhile Char.isDigit)

def readInt? : List Char → Option (Json × List Char)
  | '-' :: cs => (readNat? cs).map fun (n, rest) => (int (-n), rest)
  | cs => (readNat? cs).map fun (n, rest) => (int n, rest)

/-- Reads at least one thing up to the closing character; commas stand between them. -/
def readSome? {α : Type} (read? : List Char → Option (α × List Char)) (close : Char) :
    (n : Nat) → List Char → Option (List α × List Char)
  | 0, _ => none
  | n + 1, cs =>
    (read? cs).bind fun (a, rest) =>
      match skip rest with
      | [] => none
      | c :: rest =>
        if c = close then some ([a], rest)
        else if c = ',' then
          (readSome? read? close n (skip rest)).map fun (as, rest) => (a :: as, rest)
        else none

/-- Reads any number of things up to the closing character. -/
def readMany? {α : Type} (read? : List Char → Option (α × List Char)) (close : Char) (n : Nat)
    (cs : List Char) : Option (List α × List Char) :=
  match skip cs with
  | [] => none
  | c :: rest => if c = close then some ([], rest) else readSome? read? close n (c :: rest)

def readMember? (readValue? : List Char → Option (Json × List Char)) :
    List Char → Option ((String × Json) × List Char)
  | '"' :: cs =>
    (readString? cs).bind fun (key, rest) =>
      match skip rest with
      | ':' :: rest =>
        (readValue? (skip rest)).map fun (value, rest) => ((String.ofList key, value), rest)
      | _ => none
  | _ => none

/-- Reads a value that starts with the first character, and gives what follows.  There are less than
`n` values in one another or behind one another. -/
def readValue? : (n : Nat) → List Char → Option (Json × List Char)
  | 0, _ => none
  | _ + 1, 'n' :: 'u' :: 'l' :: 'l' :: rest => some (null, rest)
  | _ + 1, 't' :: 'r' :: 'u' :: 'e' :: rest => some (bool true, rest)
  | _ + 1, 'f' :: 'a' :: 'l' :: 's' :: 'e' :: rest => some (bool false, rest)
  | _ + 1, '"' :: rest => (readString? rest).map fun (s, rest) => (str (String.ofList s), rest)
  | n + 1, '[' :: rest =>
    (readMany? (readValue? n) ']' n rest).map fun (items, rest) => (arr items, rest)
  | n + 1, '\x7b' :: rest =>
    (readMany? (readMember? (readValue? n)) '\x7d' n rest).map fun (members, rest) =>
      (obj members, rest)
  | _ + 1, cs => readInt? cs

/-- Reads a document, which has white space around its value. -/
def read? (s : String) : Option Json := do
  let (j, rest) ← readValue? s.length (skip s.toList)
  if skip rest = [] then some j else none

/-! ### White space -/

/-- Nothing but white space. -/
def IsGap (cs : List Char) : Prop :=
  ∀ c ∈ cs, isSpace c = true

variable {gap rest cs : List Char} {margin : String} {n : Nat}

theorem IsGap.append {gap' : List Char} (h : IsGap gap) (h' : IsGap gap') :
    IsGap (gap ++ gap') := by
  intro c hc
  rcases List.mem_append.1 hc with hc | hc
  · exact h c hc
  · exact h' c hc

theorem IsGap.cons_newline (h : IsGap gap) : IsGap ('\n' :: gap) := by
  intro c hc
  rcases List.mem_cons.1 hc with rfl | hc
  · rfl
  · exact h c hc

theorem IsGap.skip_append (h : IsGap gap) (cs : List Char) : skip (gap ++ cs) = skip cs :=
  List.dropWhile_append_of_pos h

theorem skip_of_not_isSpace {c : Char} (h : isSpace c = false) : skip (c :: cs) = c :: cs := by
  unfold skip
  rw [List.dropWhile_cons_of_neg (by rw [h]; exact nofun)]

theorem skip_cons_of_isSpace {c : Char} (h : isSpace c = true) : skip (c :: cs) = skip cs := by
  unfold skip
  rw [List.dropWhile_cons_of_pos h]

/-- The margin further in. -/
theorem IsGap.deeper (h : IsGap margin.toList) : IsGap (margin ++ "  ").toList := by
  rw [String.toList_append]
  refine h.append fun c hc => ?_
  have hblank : c = ' ' := by simpa using hc
  rw [hblank]
  rfl

/-- No digit follows, so that a number is at its end. -/
def NoDigit (cs : List Char) : Prop :=
  ∀ c ∈ cs.head?, c.isDigit = false

theorem IsGap.noDigit (h : IsGap gap) {c : Char} (hc : c.isDigit = false) :
    NoDigit (gap ++ c :: cs) := by
  cases gap with
  | nil =>
    rintro _ ⟨⟩
    exact hc
  | cons d gap =>
    rintro _ ⟨⟩
    have hspace := h d List.mem_cons_self
    unfold isSpace at hspace
    simp only [Bool.or_eq_true, decide_eq_true_eq] at hspace
    obtain ((rfl | rfl) | rfl) | rfl := hspace <;> rfl

/-! ### Strings -/

theorem coded?_escapeCode : ∀ n < 32,
    coded? '0' '0' (n / 16).digitChar (n % 16).digitChar = some (Char.ofNat n) := by
  decide

theorem readString?_backslash {c d : Char} (hu : c ≠ 'u') (hd : escaped? c = some d)
    (cs : List Char) : readString? ('\\' :: c :: cs) =
      (readString? cs).map fun (chars, rest) => (d :: chars, rest) := by
  rw [readString?, hd]
  · cases readString? cs <;> rfl
  · rintro _ _ _ _ _ rfl
    exact absurd rfl hu

theorem readString?_self {c : Char} (hquote : c ≠ '"') (hbackslash : c ≠ '\\')
    (hcontrol : ¬ c.toNat < 0x20) (cs : List Char) : readString? (c :: cs) =
      (readString? cs).map fun (chars, rest) => (c :: chars, rest) := by
  rw [readString?, if_neg hcontrol]
  · cases readString? cs <;> rfl
  · exact hquote
  · rintro _ _ _ _ _ rfl
    exact absurd rfl hbackslash
  · rintro _ _ rfl
    exact absurd rfl hbackslash

/-- What stands for a character is read as that character. -/
theorem readString?_escape (c : Char) (cs : List Char) : readString? ((escape c).toList ++ cs) =
    (readString? cs).map fun (chars, rest) => (c :: chars, rest) := by
  unfold escape
  split
  case h_8 hquote hbackslash _ _ _ _ _ =>
    by_cases hc : c.toNat < 0x20
    · have hcode := coded?_escapeCode c.toNat hc
      rw [if_pos hc, escapeCode, String.toList_ofList]
      show readString? ('\\' :: 'u' :: '0' :: '0' :: _ :: _ :: cs) = _
      rw [readString?, hcode, Char.ofNat_toNat]
      cases readString? cs <;> rfl
    · rw [if_neg hc, Char.toString, String.toList_singleton]
      exact readString?_self hquote hbackslash hc cs
  all_goals
    simp only [String.reduceToList, List.cons_append, List.nil_append]
    exact readString?_backslash (by decide) rfl cs

theorem toList_quote (s : String) :
    (quote s).toList = '"' :: (s.toList.flatMap fun c => (escape c).toList) ++ ['"'] := by
  have hfold : ∀ (cs : List Char) (acc : String),
      (cs.foldl (fun acc c => acc ++ escape c) acc).toList =
        acc.toList ++ cs.flatMap fun c => (escape c).toList := by
    intro cs
    induction cs with
    | nil => simp
    | cons c cs ih =>
      intro acc
      rw [List.foldl_cons, ih, String.toList_append, List.flatMap_cons, List.append_assoc]
  unfold quote
  rw [String.toList_append, hfold]
  rfl

/-- A string is read from behind its first quote. -/
theorem readString?_flatMap (cs rest : List Char) :
    readString? (cs.flatMap (fun c => (escape c).toList) ++ '"' :: rest) = some (cs, rest) := by
  induction cs with
  | nil => rfl
  | cons c cs ih =>
    rw [List.flatMap_cons, List.append_assoc, readString?_escape, ih]
    rfl

/-! ### Numbers -/

theorem isDigit_of_mem_repr {n : Nat} {c : Char} (h : c ∈ n.repr.toList) : c.isDigit = true := by
  rw [Nat.repr_eq_ofList_toDigits, String.toList_ofList] at h
  exact Nat.isDigit_of_mem_toDigits (by decide) (by decide) h

theorem exists_toList_repr (n : Nat) : ∃ c cs, n.repr.toList = c :: cs := by
  rw [Nat.repr_eq_ofList_toDigits, String.toList_ofList]
  exact List.exists_cons_of_ne_nil Nat.toDigits_ne_nil

theorem readNat?_repr (n : Nat) (hrest : NoDigit rest) :
    readNat? (n.repr.toList ++ rest) = some (n, rest) := by
  have hdigits : ∀ c ∈ n.repr.toList, c.isDigit = true := fun _ => isDigit_of_mem_repr
  have hnone : rest.takeWhile Char.isDigit = [] ∧ rest.dropWhile Char.isDigit = rest := by
    cases rest with
    | nil => exact ⟨rfl, rfl⟩
    | cons c rest =>
      have hc : c.isDigit = false := hrest c rfl
      simp [hc]
  have hvalue : Nat.ofDigitChars 10 n.repr.toList 0 = n := by
    rw [Nat.repr_eq_ofList_toDigits, String.toList_ofList, Nat.ofDigitChars_ten_toDigits]
  obtain ⟨c, cs, hne⟩ := exists_toList_repr n
  unfold readNat?
  rw [List.takeWhile_append_of_pos hdigits, List.dropWhile_append_of_pos hdigits, hnone.1, hnone.2,
    List.append_nil, if_neg (by rw [hne]; exact nofun), hvalue]

theorem readInt?_of_ne {c : Char} (h : c ≠ '-') (cs : List Char) :
    readInt? (c :: cs) = (readNat? (c :: cs)).map fun (n, rest) => (int n, rest) := by
  rw [readInt?]
  rintro _ ⟨⟩
  exact absurd rfl h

theorem readInt?_toString (n : Int) (hrest : NoDigit rest) :
    readInt? ((toString n).toList ++ rest) = some (int n, rest) := by
  show readInt? (n.repr.toList ++ rest) = _
  rw [Int.repr_eq_if]
  split
  case isTrue h =>
    obtain ⟨c, cs, hc⟩ := exists_toList_repr n.toNat
    have hdigit : c.isDigit = true := isDigit_of_mem_repr (by rw [hc]; exact List.mem_cons_self)
    have hread := readNat?_repr n.toNat hrest
    rw [hc, List.cons_append] at hread ⊢
    rw [readInt?_of_ne (by rintro rfl; cases hdigit), hread]
    show some (int n.toNat, rest) = _
    rw [Int.toNat_of_nonneg h]
  case isFalse h =>
    rw [String.toList_append]
    show readInt? ('-' :: ((-n).toNat.repr.toList ++ rest)) = _
    rw [readInt?, readNat?_repr _ hrest]
    show some (int (-(-n).toNat), rest) = _
    rw [Int.toNat_of_nonneg (by omega), Int.neg_neg]

/-- The first character of a number: a digit or a sign. -/
theorem exists_toList_toString (n : Int) :
    ∃ c cs, (toString n).toList = c :: cs ∧ (c = '-' ∨ c.isDigit = true) := by
  show ∃ c cs, n.repr.toList = c :: cs ∧ _
  rw [Int.repr_eq_if]
  split
  case isTrue h =>
    obtain ⟨c, cs, hc⟩ := exists_toList_repr n.toNat
    exact ⟨c, cs, hc, .inr (isDigit_of_mem_repr (by rw [hc]; exact List.mem_cons_self))⟩
  case isFalse h =>
    rw [String.toList_append]
    exact ⟨'-', _, rfl, .inl rfl⟩

/-! ### Things with commas between them -/

/-- The text of some things, each behind a margin on a line of its own. -/
def joined {α : Type} (margin : List Char) (write : α → List Char) : List α → List Char
  | [] => []
  | [a] => margin ++ write a
  | a :: b :: as => margin ++ (write a ++ ',' :: '\n' :: joined margin write (b :: as))

/-- What is written for `a` is read as `a`, unless a digit follows, and does not look like the end.
-/
structure Reads {α : Type} (read? : List Char → Option (α × List Char)) (write : α → List Char)
    (close : Char) (a : α) : Prop where
  head : ∃ c cs, write a = c :: cs ∧ isSpace c = false ∧ c ≠ close
  read : ∀ rest, NoDigit rest → read? (write a ++ rest) = some (a, rest)

section

variable {α : Type} {read? : List Char → Option (α × List Char)} {write : α → List Char}
  {close : Char} {a : α} {as : List α} {space : List Char}

theorem Reads.skip_append (h : Reads read? write close a) (cs : List Char) :
    skip (write a ++ cs) = write a ++ cs := by
  obtain ⟨c, chars, hchars, hspace, -⟩ := h.head
  rw [hchars]
  exact skip_of_not_isSpace hspace

theorem length_le_joined (space : List Char) (write : α → List Char) (h : a ∈ as) :
    (write a).length ≤ (joined space write as).length := by
  induction as with
  | nil => cases h
  | cons b as ih =>
    cases as with
    | nil =>
      obtain rfl := List.mem_singleton.1 h
      simp [joined]
    | cons c as =>
      simp only [joined, List.length_append, List.length_cons]
      rcases List.mem_cons.1 h with rfl | h
      · omega
      · have := ih h
        omega

/-- A thing takes a character at least. -/
theorem length_le_length_joined (h : ∀ a ∈ as, Reads read? write close a) :
    as.length ≤ (joined space write as).length := by
  induction as with
  | nil => exact Nat.le_refl _
  | cons a as ih =>
    obtain ⟨c, cs, hwrite, -⟩ := (h a List.mem_cons_self).head
    have ih := ih fun b hb => h b (List.mem_cons_of_mem a hb)
    cases as with
    | nil =>
      simp only [joined, hwrite, List.length_append, List.length_cons, List.length_nil]
      omega
    | cons b as =>
      simp only [joined, hwrite, List.length_append, List.length_cons] at ih ⊢
      omega

theorem readSome?_joined (hspace : IsGap space) (hgap : IsGap gap)
    (hclose : close = ']' ∨ close = '\x7d') (hn : as.length ≤ n) (hne : as ≠ [])
    (h : ∀ a ∈ as, Reads read? write close a) (rest : List Char) :
    readSome? read? close n (skip (joined space write as ++ (gap ++ close :: rest))) =
      some (as, rest) := by
  induction as generalizing n with
  | nil => exact absurd rfl hne
  | cons a as ih =>
    have ha := h a List.mem_cons_self
    obtain ⟨n, rfl⟩ := Nat.exists_eq_succ_of_ne_zero (Nat.ne_zero_of_lt hn)
    cases as with
    | nil =>
      have hend : NoDigit (gap ++ close :: rest) :=
        hgap.noDigit (by rcases hclose with rfl | rfl <;> rfl)
      rw [joined, List.append_assoc, hspace.skip_append, ha.skip_append, readSome?, ha.read _ hend,
        Option.bind_some]
      dsimp only
      rw [hgap.skip_append, skip_of_not_isSpace (by rcases hclose with rfl | rfl <;> rfl)]
      dsimp only
      rw [if_pos rfl]
    | cons b as =>
      have htail := ih (Nat.le_of_succ_le_succ hn) nofun fun b hb => h b (List.mem_cons_of_mem a hb)
      have hcomma : ',' ≠ close := by rcases hclose with rfl | rfl <;> decide
      rw [joined, List.append_assoc, hspace.skip_append, List.append_assoc, ha.skip_append,
        readSome?, List.cons_append, ha.read _ (by rintro _ ⟨⟩; rfl), Option.bind_some]
      dsimp only
      rw [skip_of_not_isSpace rfl]
      dsimp only
      rw [if_neg hcomma, if_pos rfl, List.cons_append, skip_cons_of_isSpace rfl, htail]
      rfl

theorem readMany?_joined (hspace : IsGap space) (hgap : IsGap gap)
    (hclose : close = ']' ∨ close = '\x7d') (hn : (joined space write as).length ≤ n)
    (hne : as ≠ []) (h : ∀ a ∈ as, Reads read? write close a) (rest : List Char) :
    readMany? read? close n ('\n' :: (joined space write as ++ (gap ++ close :: rest))) =
      some (as, rest) := by
  have hlength : as.length ≤ n := Nat.le_trans (length_le_length_joined h) hn
  have hread := readSome?_joined hspace hgap hclose hlength hne h rest
  obtain ⟨a, as, rfl⟩ := List.exists_cons_of_ne_nil hne
  obtain ⟨c, cs, hwrite, hc, hdiffers⟩ := (h a List.mem_cons_self).head
  have hhead : ∃ cs, skip (joined space write (a :: as) ++ (gap ++ close :: rest)) = c :: cs := by
    cases as <;>
      rw [joined, List.append_assoc, hspace.skip_append, hwrite] <;>
      exact ⟨_, skip_of_not_isSpace hc⟩
  obtain ⟨cs, hhead⟩ := hhead
  rw [hhead] at hread
  unfold readMany?
  rw [skip_cons_of_isSpace rfl, hhead]
  dsimp only
  rw [if_neg hdiffers, hread]

end

/-! ### Values -/

/-- The text of a value. -/
def valueText (margin : String) (j : Json) : List Char :=
  (pretty margin j).toList

/-- The text of a member. -/
def memberText (margin : String) (m : String × Json) : List Char :=
  (quote m.1).toList ++ ':' :: ' ' :: valueText margin m.2

theorem toList_prettyItems (margin : String) (items : List Json) :
    (prettyItems margin items).toList = joined margin.toList (valueText margin) items := by
  induction items with
  | nil => simp [prettyItems, joined]
  | cons item items ih =>
    cases items with
    | nil => simp [prettyItems, joined, valueText]
    | cons next items =>
      rw [prettyItems, joined, ← ih]
      · simp [valueText]
      · exact nofun

theorem toList_prettyMembers (margin : String) (members : List (String × Json)) :
    (prettyMembers margin members).toList = joined margin.toList (memberText margin) members := by
  induction members with
  | nil => simp [prettyMembers, joined]
  | cons m members ih =>
    obtain ⟨key, value⟩ := m
    cases members with
    | nil => simp [prettyMembers, prettyMember, joined, memberText, valueText]
    | cons next members =>
      rw [prettyMembers, joined, ← ih, prettyMember, memberText]
      · simp [valueText]
      · exact nofun

theorem valueText_arr (margin : String) {items : List Json} (h : items ≠ []) :
    valueText margin (arr items) =
      '[' :: '\n' :: (joined (margin ++ "  ").toList (valueText (margin ++ "  ")) items ++
        ('\n' :: margin.toList ++ [']'])) := by
  rw [valueText, pretty, ← toList_prettyItems]
  · simp
  · exact h

theorem valueText_obj (margin : String) {members : List (String × Json)} (h : members ≠ []) :
    valueText margin (obj members) =
      '\x7b' :: '\n' :: (joined (margin ++ "  ").toList (memberText (margin ++ "  ")) members ++
        ('\n' :: margin.toList ++ ['\x7d'])) := by
  rw [valueText, pretty, ← toList_prettyMembers]
  · simp
  · exact h

/-- The first character of a value is neither white space nor a bracket that closes. -/
theorem exists_valueText (margin : String) (j : Json) :
    ∃ c cs, valueText margin j = c :: cs ∧ isSpace c = false ∧ c ≠ ']' := by
  cases j with
  | null => exact ⟨'n', ['u', 'l', 'l'], by simp [valueText, pretty], rfl, by decide⟩
  | bool b =>
    cases b with
    | true => exact ⟨'t', ['r', 'u', 'e'], by simp [valueText, pretty], rfl, by decide⟩
    | false => exact ⟨'f', ['a', 'l', 's', 'e'], by simp [valueText, pretty], rfl, by decide⟩
  | int n =>
    obtain ⟨c, cs, hcs, hc⟩ := exists_toList_toString n
    refine ⟨c, cs, hcs, ?_⟩
    rcases hc with rfl | hc
    · exact ⟨rfl, by decide⟩
    · constructor
      · unfold isSpace
        simp only [Bool.or_eq_false_iff, decide_eq_false_iff_not]
        refine ⟨⟨⟨?_, ?_⟩, ?_⟩, ?_⟩ <;> rintro rfl <;> cases hc
      · rintro rfl
        cases hc
  | str s => exact ⟨'"', _, toList_quote s, rfl, by decide⟩
  | arr items =>
    cases items with
    | nil => exact ⟨'[', [']'], by simp [valueText, pretty], rfl, by decide⟩
    | cons item items => exact ⟨'[', _, valueText_arr margin nofun, rfl, by decide⟩
  | obj members =>
    cases members with
    | nil => exact ⟨'\x7b', ['\x7d'], by simp [valueText, pretty], rfl, by decide⟩
    | cons m members => exact ⟨'\x7b', _, valueText_obj margin nofun, rfl, by decide⟩

theorem readValue?_of_number (n : Nat) {c : Char} (h : c = '-' ∨ c.isDigit = true)
    (cs : List Char) : readValue? (n + 1) (c :: cs) = readInt? (c :: cs) := by
  rw [readValue?]
  all_goals
    rintro _ ⟨⟩
    rcases h with h | h <;> cases h

theorem readMember?_memberText {read? : List Char → Option (Json × List Char)} {key : String}
    {value : Json} (h : Reads read? (valueText margin) ']' value) (hrest : NoDigit rest) :
    readMember? read? (memberText margin (key, value) ++ rest) = some ((key, value), rest) := by
  rw [memberText, toList_quote, List.append_assoc, List.cons_append, List.cons_append,
    List.cons_append, List.cons_append, List.append_assoc, readMember?, List.singleton_append,
    readString?_flatMap, Option.bind_some]
  dsimp only
  rw [skip_of_not_isSpace rfl, String.ofList_toList]
  show Option.map _ (read? (skip (' ' :: _))) = _
  rw [skip_cons_of_isSpace rfl, h.skip_append, h.read _ hrest]
  rfl

/-- **What is read of the text of a value is the value.**  The induction is on the fuel, which is as
long as the text. -/
theorem readValue?_valueText (j : Json) (hmargin : IsGap margin.toList)
    (hn : (valueText margin j).length ≤ n) (hrest : NoDigit rest) :
    readValue? n (valueText margin j ++ rest) = some (j, rest) := by
  induction n generalizing margin j rest with
  | zero =>
    obtain ⟨c, cs, hcs, -⟩ := exists_valueText margin j
    rw [hcs] at hn
    cases hn
  | succ n ih =>
    have hgap : IsGap ('\n' :: margin.toList) := hmargin.cons_newline
    -- what is inside is further in, and shorter
    have hreads : ∀ j, (valueText (margin ++ "  ") j).length ≤ n →
        Reads (readValue? n) (valueText (margin ++ "  ")) ']' j :=
      fun j hj => ⟨exists_valueText _ j, fun rest hrest => ih j hmargin.deeper hj hrest⟩
    cases j with
    | null => simp [valueText, pretty, readValue?]
    | bool b => cases b <;> simp [valueText, pretty, readValue?]
    | int k =>
      obtain ⟨c, cs, hcs, hc⟩ := exists_toList_toString k
      have hread := readInt?_toString k hrest
      rw [valueText, pretty]
      rw [hcs, List.cons_append] at hread ⊢
      rw [readValue?_of_number n hc, hread]
    | str s =>
      rw [valueText, pretty, toList_quote, List.cons_append, List.cons_append, List.append_assoc,
        readValue?, List.singleton_append, readString?_flatMap, Option.map_some]
      show some (str (String.ofList s.toList), rest) = _
      rw [String.ofList_toList]
    | arr items =>
      by_cases hne : items = []
      case pos =>
        subst hne
        simp [valueText, pretty, readValue?, readMany?, skip_of_not_isSpace, isSpace]
      case neg =>
        rw [valueText_arr margin hne] at hn ⊢
        simp only [List.length_cons, List.length_append] at hn
        have hitems : ∀ j ∈ items, Reads (readValue? n) (valueText (margin ++ "  ")) ']' j := by
          intro j hj
          have hlength := length_le_joined (margin ++ "  ").toList (valueText (margin ++ "  ")) hj
          exact hreads j (by omega)
        have hlength :
            (joined (margin ++ "  ").toList (valueText (margin ++ "  ")) items).length ≤ n := by
          omega
        have hread := readMany?_joined hmargin.deeper hgap (.inl rfl) hlength hne hitems rest
        simp only [List.cons_append, List.append_assoc, List.nil_append] at hread ⊢
        rw [readValue?, hread]
        rfl
    | obj members =>
      by_cases hne : members = []
      case pos =>
        subst hne
        simp [valueText, pretty, readValue?, readMany?, skip_of_not_isSpace, isSpace]
      case neg =>
        rw [valueText_obj margin hne] at hn ⊢
        simp only [List.length_cons, List.length_append] at hn
        have hmembers : ∀ m ∈ members,
            Reads (readMember? (readValue? n)) (memberText (margin ++ "  ")) '\x7d' m := by
          intro m hm
          have hlength := length_le_joined (margin ++ "  ").toList (memberText (margin ++ "  ")) hm
          simp only [memberText, List.length_append, List.length_cons] at hlength
          have hvalue := hreads m.2 (by omega)
          exact ⟨⟨'"', _, by rw [memberText, toList_quote]; rfl, rfl, by decide⟩,
            fun rest hrest => readMember?_memberText hvalue hrest⟩
        have hlength :
            (joined (margin ++ "  ").toList (memberText (margin ++ "  ")) members).length ≤ n := by
          omega
        have hread := readMany?_joined hmargin.deeper hgap (.inr rfl) hlength hne hmembers rest
        simp only [List.cons_append, List.append_assoc, List.nil_append] at hread ⊢
        rw [readValue?, hread]
        rfl

/-- **A document reads back as what has been written.** -/
theorem read?_document (j : Json) : read? j.document = some j := by
  have hblank : IsGap "".toList := nofun
  have hvalue : readValue? j.document.length (valueText "" j ++ ['\n']) = some (j, ['\n']) := by
    apply readValue?_valueText j hblank _ (by rintro _ ⟨⟩; rfl)
    rw [document, String.length_append]
    exact Nat.le_add_right _ _
  have htext : skip j.document.toList = valueText "" j ++ ['\n'] := by
    obtain ⟨c, cs, hcs, hspace, -⟩ := exists_valueText "" j
    rw [document, String.toList_append]
    show skip (valueText "" j ++ _) = valueText "" j ++ _
    rw [hcs]
    exact skip_of_not_isSpace hspace
  unfold read?
  rw [htext, hvalue]
  rfl

end Json

end RuneGrid
