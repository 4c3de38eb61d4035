import Mathlib.Tactic.Common
import RuneGrid.CommandLine.Command

/-!
# The listing is two lines

Neither the rows nor the positions in a listing hold a newline: a newline in a row is escaped
(`Text.OneLine.quoted`), and numbers are written in digits (`Text.OneLine.number`).  So there is one
at the end of each of the two lines and nowhere else (`CommandLine.listing_eq`).
-/

namespace RuneGrid

namespace Text

/-- There is no newline in the text. -/
def OneLine (s : String) : Prop :=
  '\n' ∉ s.toList

instance (s : String) : Decidable (OneLine s) :=
  inferInstanceAs (Decidable ('\n' ∉ s.toList))

namespace OneLine

variable {s t : String}

theorem append (hs : OneLine s) (ht : OneLine t) : OneLine (s ++ t) := by
  unfold OneLine
  rw [String.toList_append, List.mem_append]
  exact not_or.2 ⟨hs, ht⟩

theorem intercalate {parts : List String} (hs : OneLine s) (hparts : ∀ t ∈ parts, OneLine t) :
    OneLine (s.intercalate parts) := by
  induction parts with
  | nil => exact List.not_mem_nil
  | cons t parts ih =>
    have ht := hparts t List.mem_cons_self
    have hrest := ih fun t' ht' => hparts t' (List.mem_cons_of_mem _ ht')
    cases parts with
    | nil => simpa using ht
    | cons t' parts =>
      rw [String.intercalate_cons_cons]
      exact (ht.append hs).append hrest

/-- Digits are no newlines, whatever the base. -/
theorem toDigits {base : Nat} (hbase : 1 < base) (n : Nat) :
    OneLine (String.ofList (Nat.toDigits base n)) := by
  unfold OneLine
  rw [String.toList_ofList]
  induction n using Nat.strongRecOn with
  | ind n ih =>
    have hdigit : ∀ m : Nat, '\n' ∉ [m.digitChar] := fun m hm =>
      Nat.digitChar_ne '\n' (by decide) (List.mem_singleton.1 hm).symm
    rw [Nat.toDigits_eq_if hbase]
    by_cases hn : n < base
    · rw [if_pos hn]
      exact hdigit n
    · have hless : n / base < n := Nat.div_lt_self (by omega) hbase
      rw [if_neg hn, List.mem_append]
      exact not_or.2 ⟨ih _ hless, hdigit _⟩

theorem number (n : Int) : OneLine (toString n) := by
  have hnat : ∀ n : Nat, OneLine (toString n) := by
    intro n
    rw [Nat.toString_eq_ofList_toDigits]
    exact toDigits (by decide) n
  cases n with
  | ofNat n => exact hnat n
  | negSucc n => exact append (s := "-") (by decide) (hnat (n + 1))

/-- A newline is escaped, and no escape holds one. -/
theorem escape (quote c : Char) : OneLine (Text.escape quote c) := by
  unfold Text.escape
  split
  · decide
  · decide
  · decide
  · decide
  · decide
  next hnewline _ _ =>
    have hplain : OneLine c.toString := by
      intro hmem
      rw [Char.toString_eq_singleton, String.toList_singleton] at hmem
      exact hnewline (List.mem_singleton.1 hmem).symm
    split
    · exact append (s := "\\") (by decide) hplain
    · split
      · have hopen : OneLine "\\u\x7b" := by decide
        exact (hopen.append (toDigits (by decide) _)).append (by decide)
      · exact hplain

theorem quoted (s : String) : OneLine (Text.quoted s) := by
  have hfold : ∀ (cs : List Char) (acc : String), OneLine acc →
      OneLine (cs.foldl (fun acc c => acc ++ Text.escape '"' c) acc) := by
    intro cs
    induction cs with
    | nil => exact fun acc hacc => hacc
    | cons c cs ih => exact fun acc hacc => ih _ (hacc.append (escape _ c))
  exact (hfold _ "\"" (by decide)).append (by decide)

end OneLine

end Text

namespace CommandLine

/-- **The listing is two lines.** -/
theorem listing_eq (p : Program) : ∃ rows positions : String,
    listing p = "GRID: [" ++ rows ++ "]\nPOSITIONS: [" ++ positions ++ "]\n" ∧
      Text.OneLine rows ∧ Text.OneLine positions := by
  refine ⟨_, _, rfl, .intercalate (by decide) fun row hrow => ?_,
    .intercalate (by decide) fun position hposition => ?_⟩
  · obtain ⟨cells, -, rfl⟩ := List.mem_map.1 hrow
    exact .quoted cells
  · obtain ⟨q, -, rfl⟩ := List.mem_map.1 hposition
    have hopen : Text.OneLine "(" := by decide
    have hcomma : Text.OneLine ", " := by decide
    exact (((hopen.append (.number q.pos.x)).append hcomma).append (.number q.pos.y)).append
      (by decide)

end CommandLine

end RuneGrid
