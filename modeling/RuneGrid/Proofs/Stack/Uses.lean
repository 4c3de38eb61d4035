import Mathlib.Data.List.Forall2
import RuneGrid.Proofs.Instruction.Effect

/-!
# Which take gets which put

The uses of a stack are puts and takes.  `StackUse.Takes us i j` says, without looking at the stack,
that use `j` takes what use `i` has put: it is the latest put before `j` that no take before `j` has
taken.

`Stack.Serves s us t` says that the stack `s` becomes `t` by the uses `us`.  A stack that has served
`us` holds what is left of the puts, the latest on top, so what it hands out is what `Takes` says.
This is the invariant `StackUse.Accounts`, with one step for a put and one for a take
(`Accounts.put`, `Accounts.take`); `Accounts.of_serves` is the run.
-/

namespace RuneGrid

/-- What a pointer does with the stack: it puts a value on it or takes the top entry off. -/
inductive StackUse
  | put (v : Word)
  | take (entry : Option Word)
deriving DecidableEq

namespace StackUse

variable {us vs : List StackUse} {i j n : Nat} {v : Word} {entry : Option Word}

def isPut : StackUse → Bool
  | put _ => true
  | take _ => false

def isTake : StackUse → Bool
  | put _ => false
  | take _ => true

def PutAt (us : List StackUse) (i : Nat) : Prop :=
  ∃ v, us[i]? = some (.put v)

def TakeAt (us : List StackUse) (j : Nat) : Prop :=
  ∃ entry, us[j]? = some (.take entry)

/-! ### Takes and their puts -/

/-- Use `j` takes what use `i` has put: nobody has taken it before, while all that has been put
between `i` and `j` has been taken. -/
def Takes (us : List StackUse) (i j : Nat) : Prop :=
  TakeAt us j ∧ i < j ∧ PutAt us i ∧ (∀ j', j' < j → ¬ Takes us i j') ∧
    ∀ i', i < i' → i' < j → PutAt us i' → ∃ j', ∃ _ : j' < j, Takes us i' j'
termination_by j

/-- Use `i` has put something that is still there before use `n`. -/
def IsLeft (us : List StackUse) (i n : Nat) : Prop :=
  i < n ∧ PutAt us i ∧ ∀ j < n, ¬ Takes us i j

/-- A take gets the latest put that is left. -/
theorem takes_iff :
    Takes us i j ↔ TakeAt us j ∧ IsLeft us i j ∧ ∀ i', IsLeft us i' j → i' ≤ i := by
  rw [Takes]
  constructor
  · rintro ⟨hj, hlt, hi, hfree, hall⟩
    refine ⟨hj, ⟨hlt, hi, hfree⟩, ?_⟩
    rintro i' ⟨hlt', hi', hfree'⟩
    by_contra hgt
    obtain ⟨j', hj', ht⟩ := hall i' (by omega) hlt' hi'
    exact hfree' j' hj' ht
  · rintro ⟨hj, ⟨hlt, hi, hfree⟩, hmax⟩
    refine ⟨hj, hlt, hi, hfree, fun i' hgt hlt' hi' => ?_⟩
    by_contra hno
    have hleft : IsLeft us i' j := ⟨hlt', hi', fun j' hj' ht => hno ⟨j', hj', ht⟩⟩
    exact absurd (hmax i' hleft) (by omega)

theorem PutAt.lt (h : PutAt us i) : i < us.length := by
  obtain ⟨v, hv⟩ := h
  exact (List.getElem?_eq_some_iff.1 hv).1

theorem TakeAt.lt (h : TakeAt us j) : j < us.length := by
  obtain ⟨entry, he⟩ := h
  exact (List.getElem?_eq_some_iff.1 he).1

theorem Takes.lt (h : Takes us i j) : i < j :=
  (takes_iff.1 h).2.1.1

theorem Takes.lt_length (h : Takes us i j) : j < us.length :=
  (takes_iff.1 h).1.lt

/-! ### One more use -/

theorem putAt_append (h : i < us.length) : PutAt (us ++ vs) i ↔ PutAt us i := by
  rw [PutAt, PutAt, List.getElem?_append_left h]

theorem takeAt_append (h : j < us.length) : TakeAt (us ++ vs) j ↔ TakeAt us j := by
  rw [TakeAt, TakeAt, List.getElem?_append_left h]

theorem putAt_length : PutAt (us ++ [.put v]) us.length :=
  ⟨v, List.getElem?_concat_length⟩

theorem takeAt_length : TakeAt (us ++ [.take entry]) us.length :=
  ⟨entry, List.getElem?_concat_length⟩

theorem not_putAt_length : ¬ PutAt (us ++ [.take entry]) us.length := by
  rintro ⟨v, hv⟩
  rw [List.getElem?_concat_length] at hv
  cases hv

theorem not_takeAt_length : ¬ TakeAt (us ++ [.put v]) us.length := by
  rintro ⟨entry, he⟩
  rw [List.getElem?_concat_length] at he
  cases he

theorem TakeAt.lt_or_eq {u : StackUse} (h : TakeAt (us ++ [u]) j) :
    j < us.length ∨ j = us.length := by
  have hlt := h.lt
  rw [List.length_append, List.length_singleton] at hlt
  omega

/-- What a take gets does not depend on later uses. -/
theorem takes_append (h : j < us.length) : Takes (us ++ vs) i j ↔ Takes us i j := by
  induction j using Nat.strongRecOn generalizing i with
  | ind j ih =>
    have hleft : ∀ i, IsLeft (us ++ vs) i j ↔ IsLeft us i j := by
      intro i
      refine and_congr_right fun hi => and_congr (putAt_append (Nat.lt_trans hi h)) ?_
      exact forall₂_congr fun j' hj' => not_congr (ih j' hj' (Nat.lt_trans hj' h))
    rw [takes_iff, takes_iff, takeAt_append h]
    simp only [hleft]

theorem isLeft_append (h : n ≤ us.length) : IsLeft (us ++ vs) i n ↔ IsLeft us i n := by
  refine and_congr_right fun hi => and_congr (putAt_append (Nat.lt_of_lt_of_le hi h)) ?_
  exact forall₂_congr fun j hj => not_congr (takes_append (Nat.lt_of_lt_of_le hj h))

/-- After use `n`, what was left before is left unless it has been taken, and so is what `n` has
put. -/
theorem isLeft_succ :
    IsLeft us i (n + 1) ↔ IsLeft us i n ∧ ¬ Takes us i n ∨ i = n ∧ PutAt us n := by
  constructor
  · rintro ⟨hlt, hi, hfree⟩
    rcases Nat.lt_succ_iff_lt_or_eq.1 hlt with hlt | rfl
    · exact Or.inl ⟨⟨hlt, hi, fun j hj => hfree j (by omega)⟩, hfree n (by omega)⟩
    · exact Or.inr ⟨rfl, hi⟩
  · rintro (⟨⟨hlt, hi, hfree⟩, hno⟩ | ⟨rfl, hi⟩)
    · refine ⟨by omega, hi, fun j hj => ?_⟩
      rcases Nat.lt_succ_iff_lt_or_eq.1 hj with hj | rfl
      · exact hfree j hj
      · exact hno
    · exact ⟨by omega, hi, fun j hj ht => absurd ht.lt (by omega)⟩

/-- The puts `is`, from the latest down, are all that is left after `us`. -/
structure Leaves (us : List StackUse) (is : List Nat) : Prop where
  sorted : is.Pairwise (· > ·)
  mem_iff : ∀ i, i ∈ is ↔ IsLeft us i us.length

namespace Leaves

variable {is : List Nat}

theorem put (h : Leaves us is) (v : Word) : Leaves (us ++ [.put v]) (us.length :: is) := by
  refine ⟨List.pairwise_cons.2 ⟨fun i hi => ?_, h.sorted⟩, fun i => ?_⟩
  · exact ((h.mem_iff i).1 hi).1
  · have hno : ¬ Takes (us ++ [.put v]) i us.length := fun ht =>
      not_takeAt_length (takes_iff.1 ht).1
    rw [List.length_append, List.length_singleton, isLeft_succ, isLeft_append (Nat.le_refl _),
      ← h.mem_iff, List.mem_cons, and_iff_left hno, and_iff_left putAt_length, or_comm]

/-- A take gets the first of what is left. -/
theorem takes (h : Leaves us (i :: is)) (entry : Option Word) :
    Takes (us ++ [.take entry]) i us.length := by
  rw [takes_iff]
  refine ⟨takeAt_length, ?_, fun i' hi' => ?_⟩
  · rw [isLeft_append (Nat.le_refl _), ← h.mem_iff]
    exact List.mem_cons_self
  · rw [isLeft_append (Nat.le_refl _), ← h.mem_iff] at hi'
    rcases List.mem_cons.1 hi' with rfl | hi'
    · exact Nat.le_refl _
    · exact Nat.le_of_lt (List.rel_of_pairwise_cons h.sorted hi')

theorem take (h : Leaves us (i :: is)) (entry : Option Word) :
    Leaves (us ++ [.take entry]) is := by
  obtain ⟨hfirst, hsorted⟩ := List.pairwise_cons.1 h.sorted
  refine ⟨hsorted, fun i' => ?_⟩
  rw [List.length_append, List.length_singleton, isLeft_succ, isLeft_append (Nat.le_refl _),
    ← h.mem_iff, or_iff_left fun hn => not_putAt_length hn.2]
  constructor
  · intro hi'
    refine ⟨List.mem_cons_of_mem _ hi', fun ht => ?_⟩
    have hle : i ≤ i' := (takes_iff.1 ht).2.2 i (takes_iff.1 (h.takes entry)).2.1
    exact absurd (hfirst i' hi') (by omega)
  · rintro ⟨hi', hno⟩
    rcases List.mem_cons.1 hi' with rfl | hi'
    · exact absurd (h.takes entry) hno
    · exact hi'

end Leaves

end StackUse

/-! ### Stacks -/

/-- The stack `s` becomes `t` by the uses `us`. -/
inductive Stack.Serves (s : Stack) : List StackUse → Stack → Prop
  | start : Serves s [] s
  | put {us : List StackUse} {t : Stack} (prior : Serves s us t) (v : Word) :
    Serves s (us ++ [.put v]) (t.push (some v))
  | take {us : List StackUse} {t rest : Stack} {entry : Option Word} (prior : Serves s us t)
    (pops : t.pop? = some (entry, rest)) : Serves s (us ++ [.take entry]) rest

namespace Stack

variable {s t u rest : Stack} {us vs : List StackUse} {entry : Option Word}

theorem Serves.trans (h : s.Serves us t) (h' : t.Serves vs u) : s.Serves (us ++ vs) u := by
  induction h' with
  | start =>
    rw [List.append_nil]
    exact h
  | put _ v ih =>
    rw [← List.append_assoc]
    exact .put ih v
  | take _ hp ih =>
    rw [← List.append_assoc]
    exact .take ih hp

theorem size_push (s : Stack) (v : Option Word) : (s.push v).size = s.size + 1 :=
  List.length_cons

theorem size_of_pop? (h : s.pop? = some (entry, rest)) : s.size = rest.size + 1 := by
  rw [size, entries_of_pop? h, List.length_cons, size]

/-- Every put makes the stack one entry higher, every take one entry lower. -/
theorem Serves.size (h : s.Serves us t) :
    t.size + us.countP (·.isTake) = s.size + us.countP (·.isPut) := by
  induction h with
  | start => rfl
  | put _ v ih =>
    have hput : [StackUse.put v].countP (·.isPut) = 1 := rfl
    have htake : [StackUse.put v].countP (·.isTake) = 0 := rfl
    rw [List.countP_append, List.countP_append, hput, htake, size_push]
    omega
  | @take _ _ _ entry _ hp ih =>
    have hput : [StackUse.take entry].countP (·.isPut) = 0 := rfl
    have htake : [StackUse.take entry].countP (·.isTake) = 1 := rfl
    rw [List.countP_append, List.countP_append, hput, htake]
    rw [size_of_pop? hp] at ih
    omega

end Stack

namespace StackUse

variable {us : List StackUse} {s rest : Stack} {entry : Option Word}

/-- The entry is what use `i` has put. -/
def IsValueAt (us : List StackUse) (i : Nat) (entry : Option Word) : Prop :=
  ∃ v, us[i]? = some (.put v) ∧ entry = some v

/-- The stack holds what is left after `us`, the latest put on top, and every take has got what
belongs to it. -/
structure Accounts (us : List StackUse) (s : Stack) : Prop where
  left : ∃ is, Leaves us is ∧ List.Forall₂ (IsValueAt us) is s.entries
  yields : ∀ j entry, us[j]? = some (.take entry) → ∃ i, Takes us i j ∧ IsValueAt us i entry

theorem IsValueAt.append {vs : List StackUse} {i : Nat} (h : IsValueAt us i entry) :
    IsValueAt (us ++ vs) i entry := by
  obtain ⟨v, hv, rfl⟩ := h
  exact ⟨v, List.getElem?_append_left (PutAt.lt ⟨v, hv⟩) ▸ hv, rfl⟩

namespace Accounts

/-- What the earlier takes have got stays. -/
theorem yields_append {vs : List StackUse} (h : Accounts us s) {j : Nat} (hj : j < us.length)
    (ht : (us ++ vs)[j]? = some (.take entry)) :
    ∃ i, Takes (us ++ vs) i j ∧ IsValueAt (us ++ vs) i entry := by
  rw [List.getElem?_append_left hj] at ht
  obtain ⟨i, hi, hv⟩ := h.yields j entry ht
  exact ⟨i, (takes_append hj).2 hi, hv.append⟩

theorem put (h : Accounts us s) (v : Word) : Accounts (us ++ [.put v]) (s.push (some v)) := by
  obtain ⟨is, his, hs⟩ := h.left
  constructor
  · refine ⟨us.length :: is, his.put v, .cons ?_ (hs.imp fun _ _ he => he.append)⟩
    exact ⟨v, List.getElem?_concat_length, rfl⟩
  · intro j entry hj
    rcases TakeAt.lt_or_eq ⟨entry, hj⟩ with hlt | rfl
    · exact h.yields_append hlt hj
    · exact absurd ⟨entry, hj⟩ not_takeAt_length

theorem take (h : Accounts us s) (hp : s.pop? = some (entry, rest)) :
    Accounts (us ++ [.take entry]) rest := by
  obtain ⟨is, his, hs⟩ := h.left
  rw [Stack.entries_of_pop? hp] at hs
  cases hs with
  | @cons i _ is _ hi hrest =>
    constructor
    · exact ⟨is, his.take entry, hrest.imp fun _ _ he => he.append⟩
    · intro j entry' hj
      rcases TakeAt.lt_or_eq ⟨entry', hj⟩ with hlt | rfl
      · exact h.yields_append hlt hj
      · rw [List.getElem?_concat_length] at hj
        cases hj
        exact ⟨i, his.takes entry, hi.append⟩

theorem start : Accounts [.put 0] .initial := by
  have hnone : Leaves [] [] := by
    refine ⟨.nil, fun i => iff_of_false List.not_mem_nil fun h => ?_⟩
    exact Nat.not_lt_zero i h.1
  constructor
  · exact ⟨[0], hnone.put 0, .cons ⟨0, rfl, rfl⟩ .nil⟩
  · intro j entry hj
    obtain rfl : j = 0 := Nat.lt_one_iff.1 (TakeAt.lt ⟨entry, hj⟩)
    cases hj

/-- **A stack hands out what has been put on it**, and the 0 that it starts with. -/
theorem of_serves (h : Stack.initial.Serves us s) : Accounts (.put 0 :: us) s := by
  induction h with
  | start => exact start
  | put _ v ih => exact ih.put v
  | take _ hp ih => exact ih.take hp

/-- There is nothing to pop if and only if all that has been put has been taken. -/
theorem pop?_eq_none_iff (h : Accounts us s) :
    s.pop? = none ↔ ∀ i, PutAt us i → ∃ j, Takes us i j := by
  obtain ⟨is, his, hs⟩ := h.left
  rw [Stack.pop?_eq_none_iff, Stack.isEmpty, List.isEmpty_iff]
  constructor
  · intro hnil i hi
    rw [hnil, List.forall₂_nil_right_iff] at hs
    subst hs
    by_contra hno
    have hleft : IsLeft us i us.length := ⟨hi.lt, hi, fun j _ ht => hno ⟨j, ht⟩⟩
    exact absurd ((his.mem_iff i).2 hleft) List.not_mem_nil
  · intro hall
    generalize s.entries = entries at hs
    cases hs with
    | nil => rfl
    | @cons i =>
      obtain ⟨-, hi, hfree⟩ := (his.mem_iff i).1 List.mem_cons_self
      obtain ⟨j, ht⟩ := hall i hi
      exact absurd ht (hfree j ht.lt_length)

end Accounts

end StackUse

end RuneGrid
