/-!
# Paths

Paths as they are written, and the directory that holds what a path names. Main statement:
`size_lt_of_parent?`, so the way up from a path ends.
-/

namespace RuneGrid

namespace CommandLine

/-- What a path starts with: nothing of note, a slash, or a dot that stands for the current
directory. -/
inductive Path.Lead
  | relative
  | root
  | here
deriving DecidableEq

def Path.Lead.text : Path.Lead → String
  | relative => ""
  | root => "/"
  | here => "."

/-- A path, cut at its slashes behind the lead. The pieces stand from the last to the first. -/
structure Path where
  lead : Path.Lead
  pieces : List String
deriving DecidableEq

namespace Path

/-- The path that a text spells. -/
def ofString (s : String) : Path :=
  let cut (rest : List Char) := ((String.ofList rest).splitOn "/").reverse
  match s.toList with
  | [] => ⟨.relative, []⟩
  | '/' :: rest => ⟨.root, cut rest⟩
  | ['.'] => ⟨.here, []⟩
  | '.' :: '/' :: rest => ⟨.here, cut ('/' :: rest)⟩
  | rest => ⟨.relative, cut rest⟩

/-- The path as text. -/
def text (p : Path) : String :=
  p.lead.text ++ "/".intercalate p.pieces.reverse

/-- Whether a piece leads nowhere else: a double slash or a dot. -/
def isIdle (piece : String) : Bool :=
  piece = "" || piece = "."

/-- The path without its last name, if it has one. A lone dot counts as a name. -/
def parent? (p : Path) : Option Path :=
  match p.pieces.dropWhile isIdle with
  | _ :: above => some { p with pieces := above.dropWhile isIdle }
  | [] => if p.lead = .here then some ⟨.relative, []⟩ else none

/-- A measure that gets smaller on the way up. -/
def size (p : Path) : Nat :=
  p.pieces.length + if p.lead = .here then 1 else 0

theorem length_dropWhile_le {α : Type} (f : α → Bool) (l : List α) :
    (l.dropWhile f).length ≤ l.length :=
  (List.dropWhile_suffix f).length_le

theorem size_lt_of_parent? {p q : Path} (h : p.parent? = some q) : q.size < p.size := by
  have hle := length_dropWhile_le isIdle p.pieces
  unfold parent? at h
  split at h
  · next name above hp =>
    cases h
    have := length_dropWhile_le isIdle above
    simp only [hp, List.length_cons] at hle
    simp only [size]
    omega
  · split at h
    · next hlead => cases h; simp [size, hlead]
    · cases h

/-- The path and the directories above it, from the nearest to the farthest. -/
def ancestors (p : Path) : List Path :=
  p :: match _h : p.parent? with
    | some q => q.ancestors
    | none => []
termination_by p.size
decreasing_by exact size_lt_of_parent? _h

end Path

end CommandLine

end RuneGrid
