import Mathlib.Data.Finset.Card
import Mathlib.Data.Finset.Prod
import Mathlib.Data.Fintype.Basic
import RuneGrid.Proofs.Execution.Isolation
import RuneGrid.Proofs.Grid.Reading

/-!
# Programs without arithmetic

Where no cell of the grid is one of the arithmetic, nothing computes.  A register is unset or holds
a digit (`Session.holdsDigits`), nobody takes anything off the stack (`Session.stack_prefix`), and a
transcript refuses nothing, so that the only fault left is to push an unset register
(`error_of_arithmeticFree`).

The further way of a pointer is decided by its cell, its direction and its register
(`Pointer.core`).  These take at most `68 * C` values on a grid of `C` cells: four directions and
seventeen registers for each cell.  So in `68 * C` ticks every pointer comes back to a core that it
has had (`exists_alike_earlier`), and goes on from there as it did (`alike_shift`).  Every later tick
makes of each pointer what one of these ticks has made of it (`exists_alike_within`).
`arithmetic_free_is_bounded` puts it together.
-/

namespace RuneGrid

/-! ### What a cell can be -/

/-- No cell of the grid subtracts, adds, divides or multiplies. -/
def Grid.IsArithmeticFree (g : Grid) : Prop :=
  ∀ row ∈ g.rows, 'ᚷ' ∉ row ∧ 'ᛟ' ∉ row ∧ 'ᚴ' ∉ row ∧ 'ᚠ' ∉ row

theorem Instruction.arity_ofGlyph {c : Char} (hsub : c ≠ 'ᚷ') (hadd : c ≠ 'ᛟ') (hdiv : c ≠ 'ᚴ')
    (hmul : c ≠ 'ᚠ') : (ofGlyph c).arity = 0 := by
  unfold ofGlyph
  split
  case h_11 => exact absurd rfl hsub
  case h_12 => exact absurd rfl hadd
  case h_13 => exact absurd rfl hdiv
  case h_14 => exact absurd rfl hmul
  case h_16 => split <;> rfl
  all_goals rfl

/-- One glyph pushes. -/
theorem Instruction.ofGlyph_eq_push {c : Char} (h : ofGlyph c = push) : c = 'ᛙ' := by
  unfold ofGlyph at h
  split at h
  case h_4 => rfl
  case h_16 => split at h <;> cases h
  all_goals cases h

namespace Grid.IsArithmeticFree

variable {g : Grid} {pos : Vec} {c : Char}

theorem arity_ofGlyph (h : g.IsArithmeticFree) (hc : g.cell pos = some c) :
    (Instruction.ofGlyph c).arity = 0 := by
  obtain ⟨row, hrow, hmem⟩ := exists_row_of_cell hc
  obtain ⟨hsub, hadd, hdiv, hmul⟩ := h row hrow
  apply Instruction.arity_ofGlyph <;> rintro rfl <;> contradiction

/-- No pointer is ever asked for an operand. -/
theorem arity_eq (h : g.IsArithmeticFree) (p : Pointer) : p.arity g = 0 := by
  unfold Pointer.arity
  cases hc : g.cell p.pos with
  | none => rfl
  | some c => exact h.arity_ofGlyph hc

end Grid.IsArithmeticFree

/-! ### Registers that hold digits -/

/-- The register is unset or holds one of the values that a digit sets. -/
def Pointer.HoldsDigit (p : Pointer) : Prop :=
  ∀ v ∈ p.register, ∃ d : Fin 16, v = Int64.ofNat d

theorem Word.toInt_ofDigit (d : Fin 16) : (Int64.ofNat d : Word).toInt = d := by
  revert d
  decide

/-- Every digit has an output glyph. -/
theorem Glyph.numeral?_ofDigit (d : Fin 16) : (numeral? (Int64.ofNat d)).isSome := by
  revert d
  decide

namespace Pointer.HoldsDigit

variable {p : Pointer} {v : Word}

theorem bounds (h : p.HoldsDigit) (hv : v ∈ p.register) : 0 ≤ v.toInt ∧ v.toInt ≤ 15 := by
  obtain ⟨d, rfl⟩ := h v hv
  rw [Word.toInt_ofDigit]
  omega

theorem of_spawned {g : Grid} (h : p.Spawned g) : p.HoldsDigit := by
  intro v hv
  rw [h.register] at hv
  cases hv
  exact ⟨0, rfl⟩

end Pointer.HoldsDigit

section

variable {σ : Type} [Sink σ] {i : Instruction} {g : Grid} {f f' : Scene σ} {fault : Fault} {n : Nat}
  {e : RunError}

theorem Instruction.Completes.holdsDigit (h : i.Completes f f') (hi : i.arity = 0)
    (hp : f.pointer.HoldsDigit) : f'.pointer.HoldsDigit := by
  cases h with
  | digit d f =>
    intro v hv
    cases hv
    exact ⟨d, rfl⟩
  | clear f =>
    intro v hv
    cases hv
  | operate => cases hi
  | reverseIf f =>
    dsimp only
    split
    · exact hp
    · exact hp
  | _ => exact hp

/-- Without arithmetic the stack only grows. -/
theorem Instruction.Completes.stack_prefix (h : i.Completes f f') (hi : i.arity = 0) :
    f.stack.toList <+: f'.stack.toList := by
  cases h with
  | push hv =>
    show f.stack.toList <+: (f.stack.push _).toList
    rw [Stack.toList_push]
    exact List.prefix_append _ _
  | operate => cases hi
  | _ => exact List.prefix_refl _

theorem Instruction.Faults.stack_prefix (h : i.Faults f fault f') (hi : i.arity = 0) :
    f.stack.toList <+: f'.stack.toList := by
  cases h with
  | noGlyph => exact List.prefix_refl _
  | refused => exact List.prefix_refl _
  | unsetPush => exact List.prefix_refl _
  | _ => cases hi

/-- Without arithmetic, and with a sink that takes everything, only a push of an unset register
fails. -/
theorem Instruction.Faults.unset_push {f f' : Scene Transcript} (h : i.Faults f fault f')
    (hi : i.arity = 0) (hp : f.pointer.HoldsDigit) : i = .push ∧ fault = .unsetRegister := by
  cases h with
  | noGlyph hv hn =>
    obtain ⟨d, rfl⟩ := hp _ hv
    have hsome := Glyph.numeral?_ofDigit d
    rw [hn] at hsome
    cases hsome
  | refused _ hs => cases hs
  | unsetPush => exact ⟨rfl, rfl⟩
  | _ => cases hi

/-! ### Turns without arithmetic -/

/-- **How a turn without arithmetic fails**: at a push of an unset register, or off the grid. -/
theorem Scene.Stops.error_eq {f f' : Scene Transcript} (hg : g.IsArithmeticFree)
    (h : Stops g n f e f') (hp : f.pointer.HoldsDigit) :
    (∃ id pos, g.cell pos = some 'ᛙ' ∧ e = .faulted .unsetRegister ⟨id, pos, some 'ᛙ'⟩ n) ∨
      ∃ site, e = .offGrid site n := by
  cases h with
  | offGrid => exact Or.inr ⟨_, rfl⟩
  | faulted hc hf =>
    obtain ⟨hpush, rfl⟩ := hf.unset_push (hg.arity_ofGlyph hc) hp
    obtain rfl := Instruction.ofGlyph_eq_push hpush
    exact Or.inl ⟨_, _, hc, rfl⟩
  | stranded => exact Or.inr ⟨_, rfl⟩

end

/-! ### Sessions without arithmetic -/

namespace Execution

variable {program : Program} {limit : Option Nat} {e : RunError} {es : List RunError}

section

variable {σ : Type} [Sink σ] {s t : Execution σ}

theorem pass_stack_prefix (hg : s.grid.IsArithmeticFree) :
    s.stack.toList <+: s.pass.shared.stack.toList :=
  Pass.shared_induction (I := fun shared => s.stack.toList <+: shared.stack.toList)
    (fun _ _ _ hc hm h => h.trans (hm.stack_prefix (hg.arity_ofGlyph hc)))
    (fun _ _ _ _ hc hf h => h.trans (hf.stack_prefix (hg.arity_ofGlyph hc))) (List.prefix_refl _)

/-- **The stack never shrinks.** -/
theorem Session.stack_prefix (hg : s.grid.IsArithmeticFree) (h : s.Session es t) :
    s.stack.toList <+: t.stack.toList := by
  refine h.invariant (I := fun t => s.stack.toList <+: t.stack.toList) (List.prefix_refl _)
    fun t hgrid hstack => hstack.trans ?_
  rw [toShared_next]
  apply pass_stack_prefix
  rw [hgrid]
  exact hg

theorem pass_holdsDigit (hg : s.grid.IsArithmeticFree) (hs : ∀ p ∈ s.pointers, p.HoldsDigit) :
    ∀ p ∈ s.pass.pointers, p.HoldsDigit :=
  Pass.pointers_induction (fun _ _ _ hc hm => hm.holdsDigit (hg.arity_ofGlyph hc))
    (fun _ _ hp => hp) hs

/-- **Every register is unset or holds a digit.** -/
theorem Session.holdsDigits {sink : σ} (hp : program.Built) (hg : program.grid.IsArithmeticFree)
    (h : (ofProgram program sink limit).Session es t) : ∀ p ∈ t.pointers, p.HoldsDigit := by
  refine h.invariant (I := fun t => ∀ p ∈ t.pointers, p.HoldsDigit)
    (fun p hmem => .of_spawned (hp.spawned hmem)) fun t hgrid hall => ?_
  rw [pointers_next]
  apply pass_holdsDigit _ hall
  rw [hgrid]
  exact hg

end

end Execution

/-! ### Cores -/

/-- What decides the further way of a pointer that executes no arithmetic. -/
def Pointer.core (g : Grid) (p : Pointer) : Nat × Vec × Option Word :=
  (g.number p.pos, p.velocity, p.register)

/-- The registers without arithmetic. -/
def digitRegisters : Finset (Option Word) :=
  insert none (Finset.univ.image fun d : Fin 16 => some (Int64.ofNat d))

/-- The cores that there can be on a grid without arithmetic. -/
def Grid.cores (g : Grid) : Finset (Nat × Vec × Option Word) :=
  Finset.range g.cells.length ×ˢ {Vec.east, Vec.west, Vec.north, Vec.south} ×ˢ digitRegisters

theorem card_digitRegisters : digitRegisters.card = 17 := by
  decide

theorem Grid.card_cores (g : Grid) : g.cores.card = 68 * g.cells.length := by
  have hdirections : ({Vec.east, Vec.west, Vec.north, Vec.south} : Finset Vec).card = 4 := by
    decide
  rw [cores, Finset.card_product, Finset.card_product, Finset.card_range, hdirections,
    card_digitRegisters]
  omega

namespace Pointer

variable {g : Grid} {p q : Pointer}

theorem HoldsDigit.mem_digitRegisters (h : p.HoldsDigit) : p.register ∈ digitRegisters := by
  unfold digitRegisters
  cases hr : p.register with
  | none => exact Finset.mem_insert_self _ _
  | some v =>
    obtain ⟨d, rfl⟩ := h v hr
    apply Finset.mem_insert_of_mem
    exact Finset.mem_image_of_mem _ (Finset.mem_univ d)

theorem core_mem_cores (hc : (g.cell p.pos).isSome) (hv : p.velocity.IsCardinal)
    (hd : p.HoldsDigit) : p.core g ∈ g.cores := by
  unfold core Grid.cores
  rw [Finset.mem_product, Finset.mem_product]
  refine ⟨?_, ?_, hd.mem_digitRegisters⟩
  · exact Finset.mem_range.2 (Grid.number_lt hc)
  · rcases hv with h | h | h | h <;> simp [h]

/-- Pointers with one bias and one core are alike. -/
theorem alike_of_core (hp : (g.cell p.pos).isSome) (hq : (g.cell q.pos).isSome)
    (hb : p.bias = q.bias) (h : p.core g = q.core g) : p.Alike q := by
  unfold core at h
  simp only [Prod.mk.injEq] at h
  obtain ⟨hnumber, hvelocity, hregister⟩ := h
  exact ⟨Grid.number_inj hp hq hnumber, hvelocity, hb, hregister⟩

end Pointer

/-! ### Coming back -/

namespace Execution

variable {u : Execution Transcript} {program : Program} {limit : Option Nat} {p q : Pointer}
  {a b i k n : Nat}

/-- **A pointer that comes back goes on as it did**, while ticks get done. -/
theorem alike_shift (hg : u.grid.IsArithmeticFree) (hdone : u.GetsDone n) (hab : a ≤ b)
    (hn : b + k ≤ n) (hp : (u.after b).pointers[i]? = some p)
    (hq : (u.after a).pointers[i]? = some q) (halike : p.Alike q) :
    ∃ p' q', (u.after (b + k)).pointers[i]? = some p' ∧ (u.after (a + k)).pointers[i]? = some q' ∧
      p'.Alike q' := by
  have hno : (u.after b).NoArithmetic i k := by
    intro j hj r hr
    rw [grid_after]
    exact hg.arity_eq r
  have hstep : (u.after b).InStep i (u.after a) i k := by
    apply inStep_of_operands _ (hdone.later hn) (hdone.later (by omega)) hp hq halike (Or.inr hno)
    rw [grid_after, grid_after]
  obtain ⟨-, p', q', hp', hq', halike'⟩ := hstep k le_rfl
  rw [after_after] at hp' hq'
  exact ⟨p', q', hp', hq', halike'⟩

section

variable (hp : program.Built) (hg : program.grid.IsArithmeticFree)
  (hu : u = ofProgram program Transcript.empty limit)

include hp hg hu

/-- In ticks that get done, a pointer keeps its bias and has one of the cores. -/
theorem exists_pointer_after (hdone : u.GetsDone k) (hi : program.pointers[i]? = some q) :
    ∃ p, (u.after k).pointers[i]? = some p ∧ p.bias = q.bias ∧
      (program.grid.cell p.pos).isSome ∧ p.core program.grid ∈ program.grid.cores := by
  subst hu
  have hplaced := hdone.placed hp
  obtain ⟨es, hes⟩ := exists_session_after (ofProgram program Transcript.empty limit) k
  obtain ⟨p, hk, hcontinues, hcell⟩ := getElem?_of_forall₂ hplaced.pointers.flip hi
  have hon : (program.grid.cell p.pos).isSome := hcell.2 nofun
  refine ⟨p, hk, hcontinues.bias, hon, ?_⟩
  apply Pointer.core_mem_cores hon
  · exact hplaced.cardinal hp hk
  · exact hes.holdsDigits hp hg p (List.mem_of_getElem? hk)

/-- **A pointer comes back to a core that it has had**, in no more ticks than there are cores. -/
theorem exists_alike_earlier (hdone : u.GetsDone program.grid.cores.card)
    (hi : program.pointers[i]? = some q) :
    ∃ a b p r, a < b ∧ b ≤ program.grid.cores.card ∧ (u.after b).pointers[i]? = some p ∧
      (u.after a).pointers[i]? = some r ∧ p.Alike r := by
  have hpointer := fun k (hk : k ≤ program.grid.cores.card) =>
    exists_pointer_after hp hg hu (hdone.of_le hk) hi
  -- one more time than there are cores
  have hcard : (program.grid.cores.map .some).card <
      (Finset.range (program.grid.cores.card + 1)).card := by
    rw [Finset.card_map, Finset.card_range]
    exact Nat.lt_succ_self _
  have hmaps : ∀ k ∈ Finset.range (program.grid.cores.card + 1),
      ((u.after k).pointers[i]?).map (·.core program.grid) ∈ program.grid.cores.map .some := by
    intro k hk
    obtain ⟨p, hp, -, -, hmem⟩ := hpointer k (Nat.lt_succ_iff.1 (Finset.mem_range.1 hk))
    rw [hp]
    exact Finset.mem_map_of_mem .some hmem
  obtain ⟨a, ha, b, hb, hne, hcore⟩ := Finset.exists_ne_map_eq_of_card_lt_of_maps_to hcard hmaps
  rw [Finset.mem_range] at ha hb
  obtain ⟨a, b, hlt, hb, hcore⟩ : ∃ a b, a < b ∧ b ≤ program.grid.cores.card ∧
      ((u.after b).pointers[i]?).map (·.core program.grid) =
        ((u.after a).pointers[i]?).map (·.core program.grid) := by
    rcases Nat.lt_or_gt_of_ne hne with hlt | hlt
    · exact ⟨a, b, hlt, by omega, hcore.symm⟩
    · exact ⟨b, a, hlt, by omega, hcore⟩
  obtain ⟨p, hp, hbias, hcell, -⟩ := hpointer b hb
  obtain ⟨r, hr, hbias', hcell', -⟩ := hpointer a (by omega)
  rw [hp, hr] at hcore
  have halike : p.Alike r := Pointer.alike_of_core hcell hcell' (hbias.trans hbias'.symm)
    (Option.some.inj hcore)
  exact ⟨a, b, p, r, hlt, hb, hp, hr, halike⟩

/-- **What becomes of a pointer has become of it before**: while ticks get done, it is alike to
itself at a time at which it had not come back yet. -/
theorem exists_alike_within (hfirst : u.GetsDone program.grid.cores.card) (hdone : u.GetsDone n)
    (hi : program.pointers[i]? = some q) (hk : k ≤ n) :
    ∃ m < program.grid.cores.card, ∃ p r, (u.after k).pointers[i]? = some p ∧
      (u.after m).pointers[i]? = some r ∧ p.Alike r := by
  obtain ⟨a, b, p, r, hlt, hb, hpb, hra, halike⟩ := exists_alike_earlier hp hg hu hfirst hi
  have hgrid : u.grid.IsArithmeticFree := by
    rw [hu]
    exact hg
  induction k using Nat.strongRecOn with
  | ind k ih =>
    by_cases hkN : k < program.grid.cores.card
    · obtain ⟨p, hp, -⟩ := exists_pointer_after hp hg hu (hdone.of_le hk) hi
      exact ⟨k, hkN, p, p, hp, hp, rfl, rfl, rfl, rfl⟩
    · -- as many ticks after the first of the two times as `k` is after the second
      obtain ⟨j, rfl⟩ : ∃ j, k = b + j := ⟨k - b, by omega⟩
      obtain ⟨p', q', hp', hq', halike'⟩ := alike_shift hgrid hdone hlt.le hk hpb hra halike
      obtain ⟨m, hm, q'', r', hq'', hr', halike''⟩ := ih (a + j) (by omega) (by omega)
      obtain rfl : q' = q'' := Option.some.inj (hq'.symm.trans hq'')
      exact ⟨m, hm, p', r', hp', hr', halike'.trans halike''⟩

/-- Every pointer stands where it has stood before a tick that went on. -/
theorem exists_alike_goesOn (hfirst : u.GoesOn program.grid.cores.card) (hn : u.GoesOn n)
    (hmem : p ∈ (u.after n).pointers) :
    ∃ (m i : Nat) (r : Pointer), (u.after m).tick.result = .ok false ∧
      (u.after m).pointers[i]? = some r ∧ r.Alike p := by
  obtain ⟨i, hi⟩ := List.getElem?_of_mem hmem
  have hplaced : Placed program [] (u.after n) := by
    subst hu
    exact hn.getsDone.placed hp
  obtain ⟨q, hq, -⟩ := getElem?_of_forall₂ hplaced.pointers hi
  obtain ⟨m, hm, p', r, hp', hr, halike⟩ :=
    exists_alike_within hp hg hu hfirst.getsDone hn.getsDone hq le_rfl
  obtain rfl : p = p' := Option.some.inj (hi.symm.trans hp')
  exact ⟨m, i, r, hfirst m hm, hr, halike.symm⟩

/-- **If as many ticks go on as there are cores, then so does every later one.** -/
theorem goesOn_of_cores (h : u.GoesOn program.grid.cores.card) (n : Nat) : u.GoesOn n := by
  induction n with
  | zero => exact nofun
  | succ n ih =>
    have hbefore := fun p => exists_alike_goesOn hp hg hu h ih (p := p)
    have hdone : (u.after n).pass.error? = none := by
      refine Pass.done_of_forall fun p hmem shared => ?_
      obtain ⟨m, i, r, hm, hr, halike⟩ := hbefore p hmem
      obtain ⟨-, f, hf, -⟩ := exists_move (result_ok_iff.1 ⟨_, hm⟩) hr
      have harity : r.arity u.grid = 0 := by
        subst hu
        exact hg.arity_eq r
      rw [grid_after] at hf ⊢
      obtain ⟨f', hf', -⟩ := hf.exists_alike harity (.start halike _ shared)
      exact ⟨f', hf'⟩
    have hrunning : ¬ (u.after n).pass.shared.halted = true := by
      rw [pass, Pass.halted_of_done hdone, not_or]
      constructor
      · rw [ih.halted_after (by rw [hu]; rfl)]
        exact Bool.false_ne_true
      · rintro ⟨p, hmem, hend⟩
        obtain ⟨m, i, r, hm, hr, halike⟩ := hbefore p hmem
        apply not_isOnEnd_of_goesOn hm (List.mem_of_getElem? hr)
        unfold Pass.IsOnEnd at hend ⊢
        rw [grid_after] at hend ⊢
        rw [halike.pos]
        exact hend
    obtain ⟨halted, hok⟩ := result_ok_iff.2 hdone
    obtain rfl : halted = false := by
      rw [← halted_next_of_ok hok, toShared_next]
      exact Bool.eq_false_iff.2 hrunning
    intro k hk
    rcases Nat.lt_succ_iff_lt_or_eq.1 hk with hk | rfl
    · exact ih k hk
    · exact hok

end

/-! ### All together -/

/-- The bounds on what a program does that writes to a transcript. -/
structure IsBounded (program : Program) : Prop where
  /-- In every state of a session, a register is unset or holds one of the values from 0 to 15. -/
  registers : ∀ limit es s, (ofProgram program Transcript.empty limit).Session es s →
    ∀ p ∈ s.pointers, ∀ v, p.register = some v → 0 ≤ v.toInt ∧ v.toInt ≤ 15
  /-- What is on the stack stays there, whatever is called next. -/
  stack : ∀ limit es s es' t, (ofProgram program Transcript.empty limit).Session es s →
    s.Session es' t → s.stack.toList <+: t.stack.toList
  /-- A tick fails where a pointer pushes an unset register, or leaves one off the grid. -/
  errors : ∀ limit es s e, (ofProgram program Transcript.empty limit).Session es s →
    s.tick.result = .error e →
    (∃ id pos, program.grid.cell pos = some 'ᛙ' ∧
      e = .faulted .unsetRegister ⟨id, pos, some 'ᛙ'⟩ (s.ticks + 1)) ∨
    ∃ site, e = .offGrid site (s.ticks + 1)
  /-- If the first 68 ticks for each cell get done and leave the program running, then so do all
  the others. -/
  goesOn : ∀ limit,
    (ofProgram program Transcript.empty limit).GoesOn (68 * program.grid.cells.length) →
    ∀ n, (ofProgram program Transcript.empty limit).GoesOn n
  /-- A run of as many ticks finds out whether the program ever ends. -/
  decides : ∃ r,
    (ofProgram program Transcript.empty (some (68 * program.grid.cells.length))).run? = some r ∧
    ((∃ k, (ofProgram program Transcript.empty none).EndsAfter k) ↔
      ∀ n, r.result ≠ .error (.outOfTicks n))

/-- A tick, and no limit, is what ends such a run. -/
theorem endAfter_ne_outOfTicks {σ : Type} [Sink σ] (s : Execution σ) (k n : Nat) :
    (s.endAfter k).result ≠ .error (.outOfTicks n) := by
  unfold endAfter
  cases h : (s.after k).tick.result with
  | ok halted => exact nofun
  | error e =>
    intro heq
    cases heq
    exact ne_outOfTicks_of_result h n rfl

/-- **Programs without arithmetic are bounded.** -/
theorem arithmetic_free_is_bounded (hp : program.Built) (hg : program.grid.IsArithmeticFree) :
    IsBounded program where
  registers limit es s h p hmem v hv := (h.holdsDigits hp hg p hmem).bounds hv
  stack limit es s es' t h h' := by
    apply h'.stack_prefix
    rw [(h.placed hp).grid]
    exact hg
  errors limit es s e h he := by
    have hgrid := (h.placed hp).grid
    obtain ⟨k, p, f, hk, -, hstop⟩ := exists_cut he
    have hdigit := h.holdsDigits hp hg p (List.mem_of_getElem? hk)
    rw [hgrid] at hstop
    exact hstop.error_eq hg hdigit
  goesOn limit h := by
    rw [← Grid.card_cores] at h
    exact goesOn_of_cores hp hg rfl h
  decides := by
    rcases goesOn_or_endsAfter (ofProgram program Transcript.empty none)
      (68 * program.grid.cells.length) with h | ⟨k, hk, hend⟩
    · refine ⟨_, run?_ofProgram_of_goesOn h, iff_of_false ?_ fun hne => hne _ rfl⟩
      rintro ⟨k, hend⟩
      rw [← Grid.card_cores] at h
      have := hend.le_of_goesOn (goesOn_of_cores hp hg rfl h (k + 1))
      omega
    · refine ⟨_, run?_ofProgram_of_endsAfter hk hend, iff_of_true ⟨k, hend⟩ fun n => ?_⟩
      exact endAfter_ne_outOfTicks _ k n

/-- As `pusher` has not ended after 136 ticks, it never does. -/
theorem pusher_goes_on : Program.pusher.Built ∧ Program.pusher.grid.IsArithmeticFree ∧
    IsBounded .pusher ∧ ∀ n, (ofProgram .pusher Transcript.empty none).GoesOn n := by
  have hg : Program.pusher.grid.IsArithmeticFree := by
    unfold Grid.IsArithmeticFree
    decide
  have hbounded := arithmetic_free_is_bounded Program.built_pusher hg
  have hgo : (ofProgram .pusher Transcript.empty none).GoesOn
      (68 * Program.pusher.grid.cells.length) := by
    unfold GoesOn
    decide +kernel
  exact ⟨Program.built_pusher, hg, hbounded, hbounded.goesOn none hgo⟩

end Execution

end RuneGrid
