import RuneGrid.Proofs.Execution.Halting

/-!
# Stranded for good

A pointer that a tick has reported off the grid stands on no cell, so no pass gets beyond its turn,
and only a turn of its own could move it.  `StrandedSince s k t` says so of pointer `k` in a state
`t` that is later than `s`.  Main statements:

* `StrandedSince.tick`: a tick keeps it, and fails at pointer `k` or before it (`failsUpTo`).
* `stranded_for_good`: after any further calls, pointer `k` and those after it are where the error
  has left them, and the tick counter stands still.

The pointers before `k` still have their turns, and move, write and use the stack.
-/

namespace RuneGrid

variable {σ : Type} [Sink σ]

namespace Execution

variable {program : Program} {sink : σ} {limit : Option Nat} {s t u : Execution σ}
  {us vs : List (Execution σ)} {p : Pointer} {e : RunError} {i k m n : Nat}

/-- The next tick fails, and its error names pointer `k` or one before it. -/
def FailsUpTo (s : Execution σ) (k : Nat) : Prop :=
  ∃ e site, s.tick.result = .error e ∧ e.site? = some site ∧ site.pointer ≤ k

/-- In `t`, pointer `k` is off the grid, and nothing has happened since `s` to the tick counter, to
pointer `k` and to those after it. -/
structure StrandedSince (s : Execution σ) (k : Nat) (t : Execution σ) : Prop where
  off : ∃ p, t.pointers[k]? = some p ∧ t.grid.cell p.pos = none
  ticks : t.ticks = s.ticks
  pointers : ∀ i, k ≤ i → t.pointers[i]? = s.pointers[i]?

/-! ### A tick with a stranded pointer -/

/-- In a tick that gets done, nobody starts off the grid. -/
theorem cell_isSome_of_done (h : s.pass.error? = none) (hp : s.pointers[k]? = some p) :
    (s.grid.cell p.pos).isSome := by
  obtain ⟨q, -, -, hcell, -⟩ := getElem?_of_forall₂ (Pass.forall₂_of_done h) hp
  exact hcell

/-- The pointers after the one at fault are as they were. -/
theorem StopsAt.getElem?_of_lt (h : s.StopsAt k) (hi : k < i) :
    s.tick.next.pointers[i]? = s.pointers[i]? := by
  have hdrop := congrArg (·[i - (k + 1)]?) h.after
  simp only [List.getElem?_drop] at hdrop
  rwa [show k + 1 + (i - (k + 1)) = i by omega] at hdrop

namespace StrandedSince

/-- **A tick fails no later than at the stranded pointer.** -/
theorem exists_cut_le (h : s.StrandedSince k t) :
    ∃ j ≤ k, ∃ p e f, t.pointers[j]? = some p ∧ (t.cut j).pass.error? = none ∧
      Scene.Stops t.grid (t.ticks + 1) ⟨(t.cut j).pass.shared, p, []⟩ e f := by
  obtain ⟨q, hq, hoff⟩ := h.off
  have hnot : ∀ t' : Execution σ, t'.grid = t.grid → t'.pointers[k]? = some q →
      t'.pass.error? ≠ none := by
    intro t' hg hk hdone
    have hcell := cell_isSome_of_done hdone hk
    rw [hg, hoff] at hcell
    cases hcell
  obtain ⟨e, he⟩ := Option.ne_none_iff_exists'.1 (hnot t rfl hq)
  obtain ⟨j, p, f, hj, hcut, hstop⟩ := exists_cut (result_eq_error_iff.2 he)
  refine ⟨j, ?_, p, e, f, hj, hcut, hstop⟩
  by_contra hlt
  -- otherwise the stranded pointer would be among those that got through
  refine hnot (t.cut j) rfl ?_ hcut
  rw [cut, List.getElem?_take, if_pos (by omega), hq]

theorem failsUpTo {es : List RunError} (h : s.StrandedSince k t) (hp : program.Built)
    (ht : Placed program es t) : t.FailsUpTo k := by
  obtain ⟨j, hjk, p, e, f, hj, hcut, hstop⟩ := h.exists_cut_le
  obtain ⟨site, hsite, hid⟩ := hstop.site
  refine ⟨e, site, ?_, hsite, ?_⟩
  · rw [result_eq_error_iff, pass_of_stops hj hcut hstop]
  · rw [hid]
    exact (ht.id_eq hp hj).trans_le hjk

/-- **A tick leaves a stranded pointer where it is**, and those after it. -/
theorem tick (h : s.StrandedSince k t) : s.StrandedSince k t.tick.next := by
  obtain ⟨q, hq, hoff⟩ := h.off
  obtain ⟨j, hjk, p, e, f, hj, hcut, hstop⟩ := h.exists_cut_le
  obtain ⟨hstopsAt, hpointer, -⟩ := next_of_stops hj hcut hstop
  have hsame : ∀ i, k ≤ i → t.tick.next.pointers[i]? = t.pointers[i]? := by
    intro i hi
    rcases (hjk.trans hi).eq_or_lt with rfl | hlt
    · -- the stranded pointer itself is at fault, and it has not even executed a cell
      obtain rfl : j = k := by omega
      obtain rfl : p = q := Option.some.inj (hj.symm.trans hq)
      rw [hpointer, hj]
      cases hstop with
      | offGrid => rfl
      | faulted hc =>
        rw [hoff] at hc
        cases hc
      | stranded hm =>
        obtain ⟨glyph, hc, -⟩ := hm
        rw [hoff] at hc
        cases hc
    · exact hstopsAt.getElem?_of_lt hlt
  refine ⟨⟨q, (hsame k le_rfl).trans hq, ?_⟩, hstopsAt.ticks.trans h.ticks, fun i hi => ?_⟩
  · rw [grid_next]
    exact hoff
  · exact (hsame i hi).trans (h.pointers i hi)

/-- The error that reports a pointer leaves it stranded. -/
theorem of_strands {es : List RunError} (hp : program.Built) (hs : Placed program es s)
    (he : s.tick.result = .error e) (hk : e.Strands k) :
    s.tick.next.StrandedSince k s.tick.next := by
  obtain ⟨j, p, f, hj, hcut, hstop⟩ := exists_cut he
  obtain ⟨hcode, hid⟩ := hstop.strands_iff.1 hk
  obtain rfl : k = j := hid.trans (hs.id_eq hp hj)
  obtain ⟨-, hpointer, -⟩ := next_of_stops hj hcut hstop
  refine ⟨⟨f.pointer, hpointer, ?_⟩, rfl, fun _ _ => rfl⟩
  rw [grid_next, ← Option.not_isSome_iff_eq_none, hstop.cell_isSome_iff]
  exact fun hnot => hnot.2 hcode

/-! ### Any number of ticks -/

theorem after (h : s.StrandedSince k t) (n : Nat) : s.StrandedSince k (t.after n) := by
  induction n with
  | zero => exact h
  | succ n ih => exact ih.tick

end StrandedSince

theorem strandedSince_after (hp : program.Built)
    (he : ((ofProgram program sink limit).after m).tick.result = .error e) (hk : e.Strands k)
    (hmn : m < n) :
    ((ofProgram program sink limit).after (m + 1)).StrandedSince k
      ((ofProgram program sink limit).after n) := by
  obtain ⟨es, hes⟩ := exists_session_after (ofProgram program sink limit) m
  have h := (StrandedSince.of_strands hp (hes.placed hp) he hk).after (n - (m + 1))
  rw [after_next, after_after, show m + (n - (m + 1) + 1) = n by omega] at h
  exact h

/-- **A stranded pointer never resumes.**  Once a tick has reported pointer `k` off the grid, every
later tick, in whatever calls and whatever they have answered, fails at pointer `k` or before it.
The tick counter stands still, and pointer `k` and those after it stay as the error has left
them. -/
theorem stranded_for_good (hp : program.Built)
    (h : (ofProgram program sink limit).Course (us ++ u :: vs) t)
    (he : u.tick.result = .error e) (hk : e.Strands k) :
    ∀ v ∈ vs ++ [t], v.FailsUpTo k ∧ v.ticks = u.ticks ∧
      ∀ i, k ≤ i → v.pointers[i]? = u.tick.next.pointers[i]? := by
  have hu : u = (ofProgram program sink limit).after us.length :=
    h.eq_after_of_getElem? (by simp)
  have hlater : ∀ v ∈ vs ++ [t], ∃ n, us.length < n ∧
      v = (ofProgram program sink limit).after n := by
    intro v hv
    rcases List.mem_append.1 hv with hv | hv
    · obtain ⟨i, hi⟩ := List.getElem?_of_mem hv
      refine ⟨us.length + (i + 1), by omega, h.eq_after_of_getElem? ?_⟩
      rw [List.getElem?_append_right (by omega), Nat.add_sub_cancel_left]
      exact hi
    · obtain rfl := List.mem_singleton.1 hv
      exact ⟨_, by simp, h.states_eq.2⟩
  intro v hv
  obtain ⟨n, hn, rfl⟩ := hlater v hv
  subst hu
  obtain ⟨es, hes⟩ := exists_session_after (ofProgram program sink limit) n
  have hsince := strandedSince_after hp he hk hn
  exact ⟨hsince.failsUpTo hp (hes.placed hp), hsince.ticks.trans (ticks_next_of_error he),
    hsince.pointers⟩

/-- The first tick of `shoal` reports pointer 1 off the grid.  The run after it fails as well, but
pointer 0 executes its `end` cell there, so that the next run succeeds.  For all that, a further
tick fails again, and pointer 1 is where the first one has left it. -/
theorem shoal_strands_for_good : ∃ u v t e, Program.shoal.Built ∧
    (ofProgram .shoal Transcript.empty none).Course [u, v] t ∧
    u.tick.result = .error e ∧ e.Strands 1 ∧ (∃ r, t.run? = some r ∧ r.result = .ok 0) ∧
    t.FailsUpTo 1 ∧ t.ticks = 0 ∧ t.pointers[1]? = u.tick.next.pointers[1]? := by
  obtain ⟨s, hs⟩ : ∃ s, ofProgram .shoal Transcript.empty none = s := ⟨_, rfl⟩
  obtain ⟨herror, hagain, hruns, hspent, hhalted, hcount⟩ :
      s.tick.result = .error (.offGrid ⟨1, ⟨0, 2⟩, none⟩ 1) ∧
      s.tick.next.tick.result = .error (.offGrid ⟨1, ⟨0, 2⟩, none⟩ 1) ∧
      s.tick.next.halted = false ∧ s.tick.next.isSpent = false ∧
      s.tick.next.tick.next.halted = true ∧ s.tick.next.tick.next.ticks = 0 := by
    subst hs
    decide +kernel
  have hstrands : (RunError.offGrid ⟨1, ⟨0, 2⟩, none⟩ 1).Strands 1 := ⟨rfl, _, rfl, rfl⟩
  have hsucceeds := run?_of_runs_nil (.halted hhalted)
  rw [hcount] at hsucceeds
  have h : (ofProgram .shoal Transcript.empty none).Course ([] ++ s :: [s.tick.next])
      s.tick.next.tick.next := by
    rw [hs]
    exact .run (.run (.tick .start) (run?_of_fails hruns hspent hagain)
      (.fails hruns hspent hagain)) hsucceeds (hcount ▸ .halted hhalted)
  obtain ⟨hfails, -, hstays⟩ :=
    stranded_for_good Program.built_shoal h herror hstrands _ List.mem_concat_self
  exact ⟨_, _, _, _, Program.built_shoal, h, herror, hstrands, ⟨_, hsucceeds, rfl⟩, hfails,
    hcount, hstays 1 le_rfl⟩

end Execution

end RuneGrid
