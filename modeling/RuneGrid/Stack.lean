import RuneGrid.Diagnostic.Fault

/-!
# The shared stack

All pointers push to and pop from one stack. It starts with a single 0. An entry can be unset, like
a register.
-/

namespace RuneGrid

/-- The entries, from the top down. -/
structure Stack where
  entries : List (Option Word)
deriving DecidableEq

namespace Stack

def initial : Stack :=
  ⟨[some 0]⟩

/-- The entries from the bottom to the top. -/
def toList (s : Stack) : List (Option Word) :=
  s.entries.reverse

def size (s : Stack) : Nat :=
  s.entries.length

def isEmpty (s : Stack) : Bool :=
  s.entries.isEmpty

def push (s : Stack) (v : Option Word) : Stack :=
  ⟨v :: s.entries⟩

/-- The top entry, if there is one. -/
def top? (s : Stack) : Option (Option Word) :=
  s.entries.head?

/-- The top entry and the stack below it. -/
def pop? (s : Stack) : Option (Option Word × Stack) :=
  match s.entries with
  | [] => none
  | v :: rest => some (v, ⟨rest⟩)

/-- Takes the top entry off. -/
def pop : EStateM Fault Stack (Option Word) := do
  match (← get).pop? with
  | some (v, rest) => set rest; return v
  | none => throw .emptyStack

/-- An entry as the operand of an instruction. An unset one is as fatal as an unset register. -/
def asOperand : Option Word → Except Fault Word
  | some v => .ok v
  | none => .error .unsetRegister

/-- Takes an operand off. An unset entry is no operand, but it is gone all the same. -/
def takeOperand : EStateM Fault Stack Word := do
  ofExcept (asOperand (← pop))

@[simp] theorem toList_initial : initial.toList = [some 0] := rfl

@[simp]
theorem toList_push (s : Stack) (v : Option Word) : (s.push v).toList = s.toList ++ [v] := by
  simp [push, toList]

theorem pop?_eq_none_iff {s : Stack} : s.pop? = none ↔ s.isEmpty := by
  unfold pop? isEmpty
  split <;> simp_all

theorem entries_of_pop? {s rest : Stack} {v : Option Word} (h : s.pop? = some (v, rest)) :
    s.entries = v :: rest.entries := by
  unfold pop? at h
  split at h
  · cases h
  · next hs => cases h; exact hs

theorem top?_of_pop? {s rest : Stack} {v : Option Word} (h : s.pop? = some (v, rest)) :
    s.top? = some v := by
  rw [top?, entries_of_pop? h]
  rfl

theorem top?_of_empty {s : Stack} (h : s.pop? = none) : s.top? = none := by
  rw [pop?_eq_none_iff, isEmpty, List.isEmpty_iff] at h
  rw [top?, h]
  rfl

end Stack

end RuneGrid
