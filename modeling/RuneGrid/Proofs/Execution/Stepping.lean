import RuneGrid.Proofs.Execution.Frame
import RuneGrid.Proofs.Execution.Runs

/-!
# Runs and single ticks

`s.after k` is what `k` ticks make of `s`, one by one.  A run from `s` is nothing else: it stops
after the first tick that fails or halts the program (`runFor_of_endsAfter`), or where its limit is
reached (`runFor_of_goesOn`).  Ticks do not look at the limit, so the runs of a program under
different limits have their ticks in common.

`run_agrees_with_ticks` states it for a program at its start, with what follows for two limits and
for runs that are taken up again.
-/

namespace RuneGrid

variable {σ : Type} [Sink σ]

/-! ### The transcript only grows -/

section

variable [LawfulSink σ] {f f' : Scene σ}

theorem Instruction.Completes.transcript_prefix {i : Instruction} (h : i.Completes f f') :
    (Sink.transcript f.sink).toList <+: (Sink.transcript f'.sink).toList := by
  cases h with
  | @output _ glyph sink _ hs =>
    show _ <+: (Sink.transcript sink).toList
    rw [LawfulSink.transcript_of_taken hs, String.toList_push]
    exact List.prefix_append _ _
  | _ => exact List.prefix_refl _

theorem Pass.transcript_prefix (g : Grid) (n : Nat) (ps : List Pointer) (shared : Shared σ) :
    (Sink.transcript shared.sink).toList <+:
      (Sink.transcript (run g n ps shared).shared.sink).toList := by
  refine shared_induction
    (I := fun next => (Sink.transcript shared.sink).toList <+: (Sink.transcript next.sink).toList)
    (fun c f f' _ hm h => ?_) (fun c f f' fault _ hf h => ?_) (List.prefix_refl _)
  · exact h.trans hm.transcript_prefix
  · rw [Execution.transcript_of_faults hf]
    exact h

end

namespace Execution

theorem transcript_prefix_next [LawfulSink σ] (s : Execution σ) :
    s.transcript.toList <+: s.tick.next.transcript.toList := by
  rw [transcript, transcript, toShared_next]
  exact Pass.transcript_prefix _ _ _ _

/-! ### One tick after the other -/

variable {s : Execution σ} {r : Run σ} {e : RunError} {k m n : Nat}

/-- The state after `k` ticks, whatever comes of them. -/
def after (s : Execution σ) : Nat → Execution σ
  | 0 => s
  | k + 1 => (s.after k).tick.next

theorem after_next (s : Execution σ) (k : Nat) : s.tick.next.after k = s.after (k + 1) := by
  induction k with
  | zero => rfl
  | succ k ih =>
    rw [after, ih]
    rfl

theorem after_after (s : Execution σ) (m n : Nat) : (s.after m).after n = s.after (m + n) := by
  induction n with
  | zero => rfl
  | succ n ih =>
    rw [after, ih]
    rfl

theorem grid_after (s : Execution σ) (k : Nat) : (s.after k).grid = s.grid := by
  induction k with
  | zero => rfl
  | succ k ih => rw [after, grid_next, ih]

theorem limit_after (s : Execution σ) (k : Nat) : (s.after k).limit = s.limit := by
  induction k with
  | zero => rfl
  | succ k ih => rw [after, limit_next, ih]

theorem exists_session_after (s : Execution σ) (k : Nat) : ∃ es, s.Session es (s.after k) := by
  induction k with
  | zero => exact ⟨[], .start⟩
  | succ k ih =>
    obtain ⟨es, h⟩ := ih
    exact ⟨_, .tick h⟩

theorem transcript_prefix_after [LawfulSink σ] (s : Execution σ) (h : m ≤ n) :
    (s.after m).transcript.toList <+: (s.after n).transcript.toList := by
  induction n, h using Nat.le_induction with
  | base => exact List.prefix_refl _
  | succ n _ ih => exact ih.trans (transcript_prefix_next _)

/-- A tick that gets done answers whether the program has halted. -/
theorem halted_next_of_ok {halted : Bool} (h : s.tick.result = .ok halted) :
    s.tick.next.halted = halted := by
  rw [tick_eq] at h ⊢
  split at h
  · cases h
  · cases h
    rfl

/-- The next `k` ticks all get done, and the program has not halted after any of them. -/
def GoesOn (s : Execution σ) (k : Nat) : Prop :=
  ∀ j < k, (s.after j).tick.result = .ok false

/-- After `k` ticks, the next one is the first that fails or leaves the program halted. -/
structure EndsAfter (s : Execution σ) (k : Nat) : Prop where
  goesOn : s.GoesOn k
  ends : (∃ e, (s.after k).tick.result = .error e) ∨ (s.after (k + 1)).halted = true

theorem result_ne_ok_false_iff : s.tick.result ≠ .ok false ↔
    (∃ e, s.tick.result = .error e) ∨ s.tick.next.halted = true := by
  cases h : s.tick.result with
  | error e => simp
  | ok halted =>
    rw [halted_next_of_ok h]
    simp

namespace GoesOn

theorem of_le (h : s.GoesOn n) (hmn : m ≤ n) : s.GoesOn m :=
  fun j hj => h j (by omega)

theorem next (h : s.GoesOn (k + 1)) : s.tick.next.GoesOn k := by
  intro j hj
  rw [after_next]
  exact h (j + 1) (by omega)

theorem ticks_after (h : s.GoesOn k) : (s.after k).ticks = s.ticks + k := by
  induction k with
  | zero => rfl
  | succ k ih =>
    rw [after, ticks_next_of_ok (h k (Nat.lt_succ_self k)), ih (h.of_le (Nat.le_succ k))]
    rfl

theorem halted_after (h : s.GoesOn k) (hh : s.halted = false) : (s.after k).halted = false := by
  cases k with
  | zero => exact hh
  | succ k => exact halted_next_of_ok (h k (Nat.lt_succ_self k))

end GoesOn

/-- Ticks that go on are before the first one that does not. -/
theorem EndsAfter.le_of_goesOn (h : s.EndsAfter k) (hg : s.GoesOn n) : n ≤ k := by
  by_contra hlt
  exact result_ne_ok_false_iff.2 h.ends (hg k (by omega))

/-- Up to any number, the ticks go on or one of them is the first that does not. -/
theorem goesOn_or_endsAfter (s : Execution σ) (n : Nat) :
    s.GoesOn n ∨ ∃ k < n, s.EndsAfter k := by
  induction n with
  | zero => exact Or.inl nofun
  | succ n ih =>
    rcases ih with h | ⟨k, hk, h⟩
    · by_cases hn : (s.after n).tick.result = .ok false
      · refine Or.inl fun j hj => ?_
        rcases Nat.lt_succ_iff_lt_or_eq.1 hj with hj | rfl
        · exact h j hj
        · exact hn
      · exact Or.inr ⟨n, Nat.lt_succ_self n, h, result_ne_ok_false_iff.1 hn⟩
    · exact Or.inr ⟨k, by omega, h⟩

theorem GoesOn.of_not_endsAfter (h : ∀ k < n, ¬ s.EndsAfter k) : s.GoesOn n := by
  rcases goesOn_or_endsAfter s n with hg | ⟨k, hk, hend⟩
  · exact hg
  · exact absurd hend (h k hk)

/-! ### The run, by its ticks -/

/-- The states in which a run ticks come one after the other. -/
theorem Runs.states_eq {us : List (Execution σ)} (h : s.Runs us r) :
    us = (List.range us.length).map s.after ∧ r.final = s.after us.length := by
  induction h with
  | halted => exact ⟨rfl, rfl⟩
  | spent => exact ⟨rfl, rfl⟩
  | fails => exact ⟨rfl, rfl⟩
  | @goesOn s us r _ _ _ _ _ ih =>
    obtain ⟨hus, hfinal⟩ := ih
    rw [after_next] at hfinal
    refine ⟨?_, hfinal⟩
    rw [List.length_cons, List.range_succ_eq_map, List.map_cons, List.map_map]
    refine congrArg (s :: ·) (hus.trans (List.map_congr_left fun k _ => ?_))
    exact after_next s k

/-- The end of the run from `s` if its last tick is the one after the next `k`. -/
def endAfter (s : Execution σ) (k : Nat) : Run σ where
  final := s.after (k + 1)
  result := (s.after k).tick.result.map fun _ => s.ticks + (k + 1)

/-- The end of the run from `s` if its limit is reached after `k` ticks. -/
def giveUpAfter (s : Execution σ) (k : Nat) : Run σ where
  final := s.after k
  result := .error (.outOfTicks (s.ticks + k))

/-- Ticks that go on can be made before the run. -/
theorem runFor_after (hh : s.halted = false) (h : s.GoesOn k)
    (hl : ∀ n, s.limit = some n → s.ticks + k ≤ n) (n : Nat) :
    Id.run (runFor (fun _ => pure ()) (n + k) s) =
      Id.run (runFor (fun _ => pure ()) n (s.after k)) := by
  induction k generalizing s with
  | zero => rfl
  | succ k ih =>
    have hok : s.tick.result = .ok false := h 0 (Nat.succ_pos k)
    have hs : s.isSpent = false := isSpent_eq_false_iff.2 fun n hn => by
      have := hl n hn
      omega
    rw [← Nat.add_assoc, runFor_of_left hh hs, hok, ← after_next]
    refine ih (halted_next_of_ok hok) h.next fun n hn => ?_
    rw [limit_next] at hn
    rw [ticks_next_of_ok hok, Nat.add_assoc, Nat.add_comm 1]
    exact hl n hn

/-- **A run ends with the first tick that fails or halts the program.** -/
theorem runFor_of_endsAfter (hh : s.halted = false) (h : s.EndsAfter k)
    (hl : ∀ n, s.limit = some n → s.ticks + k < n) (hn : k + 1 < n) :
    Id.run (runFor (fun _ => pure ()) n s) = some (s.endAfter k) := by
  obtain ⟨hg, hend⟩ := h
  -- after the ticks that go on, one turn for the last tick and one to see that it has halted
  obtain ⟨n, rfl⟩ : ∃ m, n = m + 2 + k := ⟨n - (k + 2), by omega⟩
  have hs : (s.after k).isSpent = false := isSpent_eq_false_iff.2 fun n hn => by
    rw [limit_after] at hn
    rw [hg.ticks_after]
    exact hl n hn
  rw [runFor_after hh hg fun n hn => (hl n hn).le, runFor_of_left (hg.halted_after hh) hs, endAfter,
    after]
  cases hr : (s.after k).tick.result with
  | error e => rfl
  | ok halted =>
    obtain rfl : halted = true := by
      cases halted with
      | false => exact absurd hr (result_ne_ok_false_iff.2 hend)
      | true => rfl
    dsimp only
    rw [runFor_of_halted (halted_next_of_ok hr), ticks_next_of_ok hr, hg.ticks_after]
    rfl

/-- **A run whose limit is reached before gives up.** -/
theorem runFor_of_goesOn (hh : s.halted = false) (h : s.GoesOn k)
    (hl : s.limit = some (s.ticks + k)) (hn : k < n) :
    Id.run (runFor (fun _ => pure ()) n s) = some (s.giveUpAfter k) := by
  obtain ⟨n, rfl⟩ : ∃ m, n = m + 1 + k := ⟨n - (k + 1), by omega⟩
  have hs : (s.after k).isSpent = true := by
    rw [isSpent, limit_after, hl]
    simp [h.ticks_after]
  rw [runFor_after hh h, runFor_of_spent (h.halted_after hh) hs, h.ticks_after]
  · rfl
  · rintro n hn
    rw [hl] at hn
    cases hn
    exact le_refl _

theorem run?_of_endsAfter (hh : s.halted = false) (h : s.EndsAfter k) (hl : s.limit = some n)
    (hk : s.ticks + k < n) : s.run? = some (s.endAfter k) := by
  rw [run?_eq, allowance_of_limit hl]
  refine runFor_of_endsAfter hh h (fun m hm => ?_) (by omega)
  obtain rfl : n = m := Option.some.inj (hl.symm.trans hm)
  exact hk

theorem run?_of_goesOn (hh : s.halted = false) (h : s.GoesOn k)
    (hl : s.limit = some (s.ticks + k)) : s.run? = some (s.giveUpAfter k) := by
  rw [run?_eq, allowance_of_limit hl]
  exact runFor_of_goesOn hh h hl (by omega)

/-- Single ticks before the run make no difference. -/
theorem run?_after (hh : s.halted = false) (h : s.GoesOn k) (hl : s.limit = some n)
    (hk : s.ticks + k ≤ n) : (s.after k).run? = s.run? := by
  have hl' : (s.after k).limit = some n := (limit_after s k).trans hl
  rw [run?_eq, run?_eq, allowance_of_limit hl, allowance_of_limit hl', h.ticks_after,
    show n - s.ticks + 1 = n - (s.ticks + k) + 1 + k by omega, runFor_after hh h]
  intro m hm
  obtain rfl : n = m := Option.some.inj (hl.symm.trans hm)
  exact hk

/-- The same without a limit, if the tick counter gets to the end. -/
theorem run?_after_of_endsAfter (hh : s.halted = false) (h : s.EndsAfter k) (hl : s.limit = none)
    (hk : k + 1 < s.allowance) (hmk : m ≤ k) : (s.after m).run? = some (s.endAfter k) := by
  have hl' : ∀ n, s.limit ≠ some n := by simp [hl]
  have hall : (s.after m).allowance = s.allowance := by
    rw [allowance, allowance, limit_after, hl]
  rw [run?_eq, hall, ← runFor_after hh (h.goesOn.of_le hmk) fun n hn => absurd hn (hl' n)]
  exact runFor_of_endsAfter hh h (fun n hn => absurd hn (hl' n)) (by omega)

/-! ### Running again -/

/-- The error of a tick has a site, that of an exhausted limit has none. -/
theorem ne_outOfTicks_of_result (h : s.tick.result = .error e) (n : Nat) : e ≠ .outOfTicks n := by
  obtain ⟨k, p, f, -, -, hstop⟩ := exists_cut h
  obtain ⟨site, hsite, -⟩ := hstop.site
  rintro rfl
  cases hsite

/-- Unless a tick fails it, a run ends where it would have ended at once. -/
theorem Runs.fails_or_again {us : List (Execution σ)} (h : s.Runs us r) :
    (∃ e, r.result = .error e ∧ ∀ n, e ≠ .outOfTicks n) ∨ r.final.Runs [] r := by
  induction h with
  | halted hh => exact Or.inr (.halted hh)
  | spent hh hs => exact Or.inr (.spent hh hs)
  | fails _ _ he => exact Or.inl ⟨_, rfl, ne_outOfTicks_of_result he⟩
  | goesOn _ _ _ _ ih => exact ih

theorem run?_of_runs_nil (h : s.Runs [] r) : s.run? = some r := by
  rw [run?_eq]
  refine runFor_mono (allowance_pos s) ?_
  cases h with
  | halted hh => exact runFor_of_halted hh 0
  | spent hh hs => exact runFor_of_spent hh hs 0

theorem run?_of_fails (hh : s.halted = false) (hs : s.isSpent = false)
    (he : s.tick.result = .error e) : s.run? = some ⟨s.tick.next, .error e⟩ := by
  rw [run?_eq]
  refine runFor_mono (allowance_pos s) ?_
  rw [runFor_of_left hh hs, he]

/-- **A run that has halted or given up ends in the same way again.** -/
theorem run?_again (h : s.run? = some r)
    (hr : (∃ n, r.result = .ok n) ∨ ∃ n, r.result = .error (.outOfTicks n)) :
    r.final.run? = some r := by
  obtain ⟨us, hus⟩ := exists_runs h
  rcases hus.fails_or_again with ⟨e, he, hne⟩ | hagain
  · rw [he] at hr
    rcases hr with ⟨n, hn⟩ | ⟨n, hn⟩
    · cases hn
    · cases hn
      exact absurd rfl (hne n)
  · exact run?_of_runs_nil hagain

/-! ### The limit -/

/-- The same state under another limit. -/
def withLimit (limit : Option Nat) (s : Execution σ) : Execution σ :=
  { s with limit }

end Execution

/-- The same end of a run under another limit. -/
def Run.withLimit (limit : Option Nat) (r : Run σ) : Run σ :=
  { r with final := r.final.withLimit limit }

namespace Execution

variable {s : Execution σ} {r : Run σ} {k m n : Nat} {limit : Option Nat}

theorem pass_withLimit (limit : Option Nat) (s : Execution σ) :
    (s.withLimit limit).pass = s.pass := rfl

/-- Ticks do not look at the limit. -/
theorem tick_withLimit (limit : Option Nat) (s : Execution σ) :
    (s.withLimit limit).tick = { s.tick with next := s.tick.next.withLimit limit } := by
  rw [tick_eq, tick_eq, pass_withLimit]
  cases s.pass.error? <;> rfl

theorem after_withLimit (limit : Option Nat) (s : Execution σ) (k : Nat) :
    (s.withLimit limit).after k = (s.after k).withLimit limit := by
  induction k with
  | zero => rfl
  | succ k ih => rw [after, ih, tick_withLimit, after]

theorem goesOn_withLimit : (s.withLimit limit).GoesOn k ↔ s.GoesOn k := by
  simp only [GoesOn, after_withLimit, tick_withLimit]

theorem endsAfter_withLimit : (s.withLimit limit).EndsAfter k ↔ s.EndsAfter k := by
  constructor
  · rintro ⟨hg, hend⟩
    simp only [after_withLimit, tick_withLimit] at hend
    exact ⟨goesOn_withLimit.1 hg, hend⟩
  · rintro ⟨hg, hend⟩
    refine ⟨goesOn_withLimit.2 hg, ?_⟩
    simp only [after_withLimit, tick_withLimit]
    exact hend

theorem endAfter_withLimit (limit : Option Nat) (s : Execution σ) (k : Nat) :
    (s.withLimit limit).endAfter k = (s.endAfter k).withLimit limit := by
  rw [endAfter, after_withLimit, after_withLimit, tick_withLimit]
  rfl

/-! ### From the start -/

/-- The runs from `start`, under any limit, are what the ticks from there make of them. -/
structure RunsAsTicked (start : Option Nat → Execution σ) : Prop where
  /-- A tick within the limit that is the first to fail or to halt the program ends the run. -/
  ends : ∀ n k, k < n → (start none).EndsAfter k →
    (start (some n)).run? = some (((start none).endAfter k).withLimit (some n))
  /-- If there is no such tick, the run gives up when its limit is reached. -/
  givesUp : ∀ n, (∀ k < n, ¬ (start none).EndsAfter k) → (start none).GoesOn n ∧
    (start (some n)).run? =
      some ⟨((start none).after n).withLimit (some n), .error (.outOfTicks n)⟩
  /-- Without a limit the run ends with the first such tick, if the tick counter gets there. -/
  unlimited : ∀ k, (start none).EndsAfter k →
    (∀ turns, k + 1 < turns →
      Id.run (runFor (fun _ => pure ()) turns (start none)) = some ((start none).endAfter k)) ∧
    (k + 1 < (start none).allowance →
      ∀ j ≤ k, ((start none).after j).run? = some ((start none).endAfter k))
  /-- Ticks that are made one by one before the run make no difference. -/
  resumed : ∀ n k, k ≤ n → (∀ j < k, ¬ (start none).EndsAfter j) →
    ((start (some n)).after k).run? = (start (some n)).run?
  /-- A run that has not given up ends in the same way under a higher limit. -/
  raised : ∀ n m r, n ≤ m → (start (some n)).run? = some r →
    (∀ t, r.result ≠ .error (.outOfTicks t)) →
    (start (some m)).run? = some (r.withLimit (some m))
  /-- Under a higher limit a run writes the same and perhaps more after it. -/
  written [LawfulSink σ] : ∀ n m r r', n ≤ m → (start (some n)).run? = some r →
    (start (some m)).run? = some r' → r.final.transcript.toList <+: r'.final.transcript.toList
  /-- A run that has halted or given up ends in the same way again, in the same state. -/
  again : ∀ limit r, (start limit).run? = some r →
    (∃ t, r.result = .ok t) ∨ (∃ t, r.result = .error (.outOfTicks t)) → r.final.run? = some r

variable {program : Program} {sink : σ}

theorem run?_ofProgram_of_endsAfter (hk : k < n) (h : (ofProgram program sink none).EndsAfter k) :
    (ofProgram program sink (some n)).run? =
      some (((ofProgram program sink none).endAfter k).withLimit (some n)) := by
  have hrun : (ofProgram program sink (some n)).run? =
      some (((ofProgram program sink none).withLimit (some n)).endAfter k) :=
    run?_of_endsAfter rfl (endsAfter_withLimit.2 h) rfl ((Nat.zero_add k).trans_lt hk)
  rw [hrun, endAfter_withLimit]

theorem run?_ofProgram_of_goesOn (h : (ofProgram program sink none).GoesOn n) :
    (ofProgram program sink (some n)).run? = some
      ⟨((ofProgram program sink none).after n).withLimit (some n), .error (.outOfTicks n)⟩ := by
  have hrun : (ofProgram program sink (some n)).run? =
      some (((ofProgram program sink none).withLimit (some n)).giveUpAfter n) :=
    run?_of_goesOn rfl (goesOn_withLimit.2 h) (congrArg some (Nat.zero_add n).symm)
  rw [hrun, giveUpAfter, after_withLimit]
  show some (Run.mk _ (.error (.outOfTicks (0 + n)))) = _
  rw [Nat.zero_add]

/-- Every run from the start is one of these. -/
theorem run?_ofProgram_cases (h : (ofProgram program sink (some n)).run? = some r) :
    (∃ k < n, (ofProgram program sink none).EndsAfter k ∧
      r = ((ofProgram program sink none).endAfter k).withLimit (some n)) ∨
    (ofProgram program sink none).GoesOn n ∧
      r = ⟨((ofProgram program sink none).after n).withLimit (some n), .error (.outOfTicks n)⟩ := by
  rcases goesOn_or_endsAfter (ofProgram program sink none) n with hg | ⟨k, hk, hend⟩
  · rw [run?_ofProgram_of_goesOn hg] at h
    exact Or.inr ⟨hg, (Option.some.inj h).symm⟩
  · rw [run?_ofProgram_of_endsAfter hk hend] at h
    exact Or.inl ⟨k, hk, hend, (Option.some.inj h).symm⟩

/-- Under a higher limit a run goes on where it has given up. -/
theorem transcript_prefix_of_le [LawfulSink σ] {r' : Run σ} (hnm : n ≤ m)
    (h : (ofProgram program sink (some n)).run? = some r)
    (h' : (ofProgram program sink (some m)).run? = some r') :
    r.final.transcript.toList <+: r'.final.transcript.toList := by
  rcases run?_ofProgram_cases h with ⟨k, hk, hend, rfl⟩ | ⟨hg, rfl⟩
  · rw [run?_ofProgram_of_endsAfter (hk.trans_le hnm) hend] at h'
    obtain rfl := Option.some.inj h'
    exact List.prefix_refl _
  · rcases run?_ofProgram_cases h' with ⟨k, hk, hend, rfl⟩ | ⟨-, rfl⟩
    · exact transcript_prefix_after _ ((hend.le_of_goesOn hg).trans (Nat.le_succ k))
    · exact transcript_prefix_after _ hnm

/-- **Runs agree with single ticks.**  From the start of a program, the tick that is the first to
fail or to halt it ends the run if the limit lets it happen, and otherwise the run gives up at the
limit.  So a higher limit changes nothing for a run that has not given up, and what a run writes is
a beginning of what it writes under a higher limit; ticks that are made before the run are made no
second time; and a run that has halted or given up stays as it is. -/
theorem run_agrees_with_ticks (program : Program) (sink : σ) :
    RunsAsTicked (ofProgram program sink) where
  ends _ _ := run?_ofProgram_of_endsAfter
  givesUp n hn := by
    have hg := GoesOn.of_not_endsAfter hn
    exact ⟨hg, run?_ofProgram_of_goesOn hg⟩
  unlimited k hend := by
    constructor
    · intro turns hk
      exact runFor_of_endsAfter rfl hend nofun hk
    · intro hk j hj
      exact run?_after_of_endsAfter rfl hend rfl hk hj
  resumed n k hk hn := by
    have hg : (ofProgram program sink (some n)).GoesOn k :=
      goesOn_withLimit.2 (GoesOn.of_not_endsAfter hn)
    exact run?_after rfl hg rfl ((Nat.zero_add k).trans_le hk)
  raised n m r hnm h hr := by
    rcases run?_ofProgram_cases h with ⟨k, hk, hend, rfl⟩ | ⟨-, rfl⟩
    · exact run?_ofProgram_of_endsAfter (hk.trans_le hnm) hend
    · exact absurd rfl (hr n)
  written _ _ _ _ := transcript_prefix_of_le
  again _ _ := run?_again

/-- In `scarce`, the second tick is the first to fail: a run with a limit of two ticks ends with it,
a run with a limit of one gives up. -/
theorem scarce_runs_as_ticked : RunsAsTicked (ofProgram .scarce Transcript.empty) ∧
    (ofProgram .scarce Transcript.empty none).EndsAfter 1 ∧
    (∃ r, (ofProgram .scarce Transcript.empty (some 2)).run? = some r ∧
      r.result = .error (.faulted .emptyStack ⟨2, ⟨2, 1⟩, some 'ᛟ'⟩ 2)) ∧
    ∃ r, (ofProgram .scarce Transcript.empty (some 1)).run? = some r ∧
      r.result = .error (.outOfTicks 1) := by
  have h := run_agrees_with_ticks .scarce Transcript.empty
  have hgo : (ofProgram .scarce Transcript.empty none).tick.result = .ok false := rfl
  have hend : (ofProgram .scarce Transcript.empty none).EndsAfter 1 := by
    refine ⟨fun j hj => ?_, Or.inl ⟨_, rfl⟩⟩
    obtain rfl : j = 0 := by omega
    exact hgo
  refine ⟨h, hend, ⟨_, h.ends 2 1 (by decide) hend, rfl⟩,
    ⟨_, (h.givesUp 1 fun k hk hend' => ?_).2, rfl⟩⟩
  obtain rfl : k = 0 := by omega
  exact result_ne_ok_false_iff.2 hend'.ends hgo

end Execution

end RuneGrid
