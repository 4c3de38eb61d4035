import Mathlib.Tactic.Common
import RuneGrid.Instruction.Effect
import RuneGrid.Proofs.Arithmetic
import RuneGrid.Proofs.Heading

/-!
# What an instruction does

`Instruction.Completes i f f'` and `Instruction.Faults i f fault f'` list what can come of
executing `i` in the scene `f`, one rule for each way; `completes_or_faults` says that the lists
are complete.  Later proofs read them and do not open `Instruction.effect` again.

Main statements, drawn from the lists:

* `Completes.continues`: the pointer keeps its number, place, origin, start glyph and
  bias, and its velocity stays one of the four directions.
* `Completes.halted`: only `finish` halts.
* `Faults.pointer_eq`, `Faults.halted_eq`: a fault changes neither the pointer nor the
  halting flag.
* `Faults.pop_of_arithmetic`, `Faults.stack_eq`: a fault of the arithmetic has used up its
  operand, any other one leaves the stack as it was.
* `Faults.code_mem_codes`: which faults an instruction can come to.
-/

namespace RuneGrid

variable {σ : Type}

/-! ### A pointer at a later time -/

/-- What `p` and `q` share if `q` is `p` at a later time. -/
structure Pointer.Continues (q p : Pointer) : Prop where
  id : q.id = p.id
  origin : q.origin = p.origin
  symbol : q.symbol = p.symbol
  bias : q.bias = p.bias
  cardinal : p.velocity.IsCardinal → q.velocity.IsCardinal

namespace Pointer.Continues

variable {p q r : Pointer}

theorem refl (p : Pointer) : p.Continues p :=
  ⟨rfl, rfl, rfl, rfl, fun h => h⟩

theorem trans (hq : r.Continues q) (hp : q.Continues p) : r.Continues p :=
  ⟨hq.id.trans hp.id, hq.origin.trans hp.origin, hq.symbol.trans hp.symbol,
    hq.bias.trans hp.bias, fun h => hq.cardinal (hp.cardinal h)⟩

theorem moved (h : q.Continues p) (pos : Vec) : ({ q with pos } : Pointer).Continues p :=
  ⟨h.id, h.origin, h.symbol, h.bias, h.cardinal⟩

theorem turn (p : Pointer) (t : Turn) : (p.turn t).Continues p :=
  ⟨rfl, rfl, rfl, rfl, fun h => h.turn t⟩

theorem setRegister (p : Pointer) (v : Option Word) : (p.setRegister v).Continues p :=
  ⟨rfl, rfl, rfl, rfl, fun h => h⟩

end Pointer.Continues

/-! ### Stacks without unset entries -/

/-- No entry of the stack is unset. -/
def Stack.IsSet (s : Stack) : Prop :=
  none ∉ s.entries

namespace Stack.IsSet

variable {s rest : Stack} {entry : Option Word}

theorem initial : Stack.initial.IsSet := by
  unfold IsSet Stack.initial
  decide

theorem push (h : s.IsSet) (v : Word) : (s.push (some v)).IsSet := by
  intro hmem
  rcases List.mem_cons.1 hmem with he | hmem
  · cases he
  · exact h hmem

theorem pop (h : s.IsSet) (hp : s.pop? = some (entry, rest)) : entry ≠ none ∧ rest.IsSet := by
  unfold Stack.pop? at hp
  split at hp
  · cases hp
  · next he =>
    cases hp
    rw [IsSet, he, List.mem_cons, not_or] at h
    exact ⟨Ne.symm h.1, h.2⟩

end Stack.IsSet

/-! ### The parts of an instruction -/

namespace Scene

theorem ask_apply {α : Type} (question : Pointer → Except Fault α) (f : Scene σ) :
    ask question f = match question f.pointer with
      | .ok a => .ok a f
      | .error fault => .error fault f := by
  show (ask question).run f = _
  rw [ask, EStateM.run_bind, EStateM.run_get]
  dsimp only
  cases question f.pointer <;> rfl

theorem pop_apply (s : Stack) :
    Stack.pop s = match s.pop? with
      | none => .error .emptyStack s
      | some (entry, stack) => .ok entry stack := by
  show Stack.pop.run s = _
  rw [Stack.pop, EStateM.run_bind, EStateM.run_get]
  dsimp only
  cases s.pop? <;> rfl

theorem stackTakeOperand_apply (s : Stack) :
    Stack.takeOperand s = match s.pop? with
      | none => .error .emptyStack s
      | some (entry, stack) =>
        match Stack.asOperand entry with
        | .ok w => .ok w stack
        | .error fault => .error fault stack := by
  show Stack.takeOperand.run s = _
  rw [Stack.takeOperand, EStateM.run_bind, EStateM.run, pop_apply]
  cases s.pop? with
  | none => rfl
  | some r =>
    obtain ⟨entry, stack⟩ := r
    cases entry <;> rfl

/-- The scene in which the top entry, if there is one, has been taken, which leaves this stack. -/
def taken (f : Scene σ) (stack : Stack) : Scene σ :=
  f.stack.top?.elim f fun entry => { f with stack }.note (.popped f.pointer.id entry)

theorem taken_of_pop? {f : Scene σ} {entry : Option Word} {stack : Stack}
    (h : f.stack.pop? = some (entry, stack)) :
    f.taken stack = { f with stack }.note (.popped f.pointer.id entry) := by
  unfold taken
  rw [Stack.top?_of_pop? h]
  rfl

theorem taken_of_empty {f : Scene σ} {stack : Stack} (h : f.stack.pop? = none) :
    f.taken stack = f := by
  unfold taken
  rw [Stack.top?_of_empty h]
  rfl

/-- **To take an operand** is to take one off the stack, and an event. -/
theorem takeOperand_eq (f : Scene σ) :
    takeOperand f = match Stack.takeOperand f.stack with
      | .ok w stack => .ok w (f.taken stack)
      | .error fault stack => .error fault (f.taken stack) := by
  show takeOperand.run f = _
  rw [takeOperand, EStateM.run_bind, EStateM.run, focus, pop_apply, stackTakeOperand_apply]
  cases hp : f.stack.pop? with
  | none =>
    dsimp only
    rw [taken_of_empty hp]
  | some r =>
    obtain ⟨entry, stack⟩ := r
    cases entry <;> simp only [Stack.asOperand, taken_of_pop? hp] <;> rfl

theorem takeOperand_apply (f : Scene σ) :
    takeOperand f = match f.stack.pop? with
      | none => .error .emptyStack f
      | some (entry, stack) =>
        match Stack.asOperand entry with
        | .ok w => .ok w ({ f with stack }.note (.popped f.pointer.id entry))
        | .error fault => .error fault ({ f with stack }.note (.popped f.pointer.id entry)) := by
  rw [takeOperand_eq, stackTakeOperand_apply]
  cases hp : f.stack.pop? with
  | none =>
    dsimp only
    rw [taken_of_empty hp]
  | some r =>
    obtain ⟨entry, stack⟩ := r
    cases entry <;> simp only [Stack.asOperand, taken_of_pop? hp]

theorem emit_apply [Sink σ] (glyph : Char) (f : Scene σ) :
    emit glyph f = match Sink.emit glyph f.sink with
      | .ok () sink => .ok () ({ f with sink }.note (.emitted f.pointer.id glyph))
      | .error cause sink => .error (.refusedOutput cause) { f with sink } := by
  show (emit glyph).run f = _
  rw [emit, EStateM.run_bind, EStateM.run_adaptExcept, EStateM.run, focus]
  cases Sink.emit glyph f.sink <;> rfl

end Scene

namespace Instruction

variable [Sink σ] {i : Instruction} {f f' : Scene σ} {fault : Fault}

/-- The ways in which an instruction gets done. -/
inductive Completes : Instruction → Scene σ → Scene σ → Prop
  | digit (d : Fin 16) (f : Scene σ) :
    Completes (.digit d) f { f with pointer := f.pointer.setRegister (some (Int64.ofNat d)) }
  | clear (f : Scene σ) : Completes .clear f { f with pointer := f.pointer.setRegister none }
  | finish (f : Scene σ) : Completes .finish f { f with halted := true }
  | output {f : Scene σ} {glyph : Char} {sink : σ} : f.pointer.glyph = .ok glyph →
    Sink.emit glyph f.sink = .ok () sink →
    Completes .output f ({ f with sink }.note (.emitted f.pointer.id glyph))
  | push {f : Scene σ} {v : Word} : f.pointer.register = some v →
    Completes .push f ({ f with stack := f.stack.push (some v) }.note (.pushed f.pointer.id v))
  | turn (t : Turn) (f : Scene σ) : Completes (.turn t) f { f with pointer := f.pointer.turn t }
  | faceEast (f : Scene σ) : Completes .faceEast f { f with pointer := f.pointer.face .east }
  | faceWest (f : Scene σ) : Completes .faceWest f { f with pointer := f.pointer.face .west }
  | operate {op : Operator} {f : Scene σ} {v w result : Word} {stack : Stack} :
    f.pointer.register = some v → f.stack.pop? = some (some w, stack) →
    op.apply v w = .ok result →
    Completes (.operate op) f { { f with stack }.note (.popped f.pointer.id (some w)) with
      pointer := f.pointer.setRegister (some result) }
  | reverseIf (f : Scene σ) : Completes .reverseIf f
      { f with pointer := if f.pointer.isNonzero then f.pointer.turn .half else f.pointer }
  | nop (f : Scene σ) : Completes .nop f f

/-- The ways in which an instruction stops at a fault. -/
inductive Faults : Instruction → Scene σ → Fault → Scene σ → Prop
  | noGlyph {f : Scene σ} {v : Word} : f.pointer.register = some v → Glyph.numeral? v = none →
    Faults .output f (.noGlyph v) f
  | refused {f : Scene σ} {glyph : Char} {cause : WriteError} {sink : σ} :
    f.pointer.glyph = .ok glyph → Sink.emit glyph f.sink = .error cause sink →
    Faults .output f (.refusedOutput cause) { f with sink }
  | unsetPush {f : Scene σ} : f.pointer.register = none → Faults .push f .unsetRegister f
  | unsetOperate (op : Operator) {f : Scene σ} : f.pointer.register = none →
    Faults (.operate op) f .unsetRegister f
  | emptyStack (op : Operator) {f : Scene σ} {v : Word} : f.pointer.register = some v →
    f.stack.pop? = none → Faults (.operate op) f .emptyStack f
  | unsetOperand (op : Operator) {f : Scene σ} {v : Word} {stack : Stack} :
    f.pointer.register = some v → f.stack.pop? = some (none, stack) →
    Faults (.operate op) f .unsetRegister ({ f with stack }.note (.popped f.pointer.id none))
  | arithmetic {op : Operator} {f : Scene σ} {v w : Word} {stack : Stack} {fault : Fault} :
    f.pointer.register = some v → f.stack.pop? = some (some w, stack) →
    op.apply v w = .error fault →
    Faults (.operate op) f fault ({ f with stack }.note (.popped f.pointer.id (some w)))

/-! ### The lists are complete -/

theorem effect_output (f : Scene σ) :
    output.effect f = match f.pointer.glyph with
      | .ok glyph => Scene.emit glyph f
      | .error fault => .error fault f := by
  simp only [effect, bind, EStateM.bind, Scene.ask_apply]
  cases f.pointer.glyph <;> rfl

theorem effect_push (f : Scene σ) :
    push.effect f = match f.pointer.value with
      | .ok v => .ok ()
        ({ f with stack := f.stack.push (some v) }.note (.pushed f.pointer.id v))
      | .error fault => .error fault f := by
  simp only [effect, bind, EStateM.bind, Scene.ask_apply]
  cases f.pointer.value <;> rfl

theorem effect_operate (op : Operator) (f : Scene σ) :
    (operate op).effect f = match f.pointer.value with
      | .ok v =>
        match Scene.takeOperand f with
        | .ok w m =>
          match op.apply v w with
          | .ok result => .ok () { m with pointer := m.pointer.setRegister (some result) }
          | .error fault => .error fault m
        | .error fault m => .error fault m
      | .error fault => .error fault f := by
  simp only [effect, bind, EStateM.bind, Scene.ask_apply]
  cases f.pointer.value with
  | error fault => rfl
  | ok v =>
    dsimp only
    cases Scene.takeOperand f with
    | error fault m => rfl
    | ok w m =>
      dsimp only
      cases op.apply v w <;> rfl

theorem value_eq_ok_iff {p : Pointer} {v : Word} : p.value = .ok v ↔ p.register = some v := by
  unfold Pointer.value
  cases p.register <;> simp

theorem value_eq_error_iff {p : Pointer} :
    p.value = .error fault ↔ p.register = none ∧ fault = .unsetRegister := by
  unfold Pointer.value
  cases p.register <;> simp [eq_comm]

theorem glyph_eq_error_iff {p : Pointer} :
    p.glyph = .error fault ↔
      ∃ v, p.register = some v ∧ Glyph.numeral? v = none ∧ fault = .noGlyph v := by
  unfold Pointer.glyph
  cases p.register with
  | none => simp
  | some v => cases hv : Glyph.numeral? v <;> simp [hv, eq_comm]

theorem Completes.effect_eq (h : Completes i f f') : i.effect f = .ok () f' := by
  cases h with
  | output hg hs => rw [effect_output, hg]; dsimp only; rw [Scene.emit_apply, hs]
  | push hv => rw [effect_push, value_eq_ok_iff.2 hv]
  | operate hv hp hr =>
    rw [effect_operate, value_eq_ok_iff.2 hv, Scene.takeOperand_apply, hp]
    dsimp only [Stack.asOperand]
    rw [hr]
    rfl
  | _ => rfl

theorem Faults.effect_eq (h : Faults i f fault f') : i.effect f = .error fault f' := by
  cases h with
  | noGlyph hv hg => rw [effect_output, glyph_eq_error_iff.2 ⟨_, hv, hg, rfl⟩]
  | refused hg hs => rw [effect_output, hg]; dsimp only; rw [Scene.emit_apply, hs]
  | unsetPush hv => rw [effect_push, value_eq_error_iff.2 ⟨hv, rfl⟩]
  | unsetOperate op hv => rw [effect_operate, value_eq_error_iff.2 ⟨hv, rfl⟩]
  | emptyStack op hv hp =>
    rw [effect_operate, value_eq_ok_iff.2 hv, Scene.takeOperand_apply, hp]
  | unsetOperand op hv hp =>
    rw [effect_operate, value_eq_ok_iff.2 hv, Scene.takeOperand_apply, hp]
    rfl
  | arithmetic hv hp hr =>
    rw [effect_operate, value_eq_ok_iff.2 hv, Scene.takeOperand_apply, hp]
    dsimp only [Stack.asOperand]
    rw [hr]

/-- **An instruction gets done or stops at a fault in one of the listed ways.** -/
theorem completes_or_faults (i : Instruction) (f : Scene σ) :
    (∃ f', Completes i f f') ∨ ∃ fault f', Faults i f fault f' := by
  cases i with
  | output =>
    cases hg : f.pointer.glyph with
    | error fault =>
      obtain ⟨v, hv, hn, rfl⟩ := glyph_eq_error_iff.1 hg
      exact Or.inr ⟨_, _, .noGlyph hv hn⟩
    | ok glyph =>
      cases hs : Sink.emit glyph f.sink with
      | ok _ sink => exact Or.inl ⟨_, .output hg hs⟩
      | error cause sink => exact Or.inr ⟨_, _, .refused hg hs⟩
  | push =>
    cases hv : f.pointer.register with
    | none => exact Or.inr ⟨_, _, .unsetPush hv⟩
    | some v => exact Or.inl ⟨_, .push hv⟩
  | operate op =>
    cases hv : f.pointer.register with
    | none => exact Or.inr ⟨_, _, .unsetOperate op hv⟩
    | some v =>
      rcases hp : f.stack.pop? with _ | ⟨_ | w, stack⟩
      · exact Or.inr ⟨_, _, .emptyStack op hv hp⟩
      · exact Or.inr ⟨_, _, .unsetOperand op hv hp⟩
      · cases hr : op.apply v w with
        | ok result => exact Or.inl ⟨_, .operate hv hp hr⟩
        | error fault => exact Or.inr ⟨_, _, .arithmetic hv hp hr⟩
  | digit d => exact Or.inl ⟨_, .digit d f⟩
  | clear => exact Or.inl ⟨_, .clear f⟩
  | finish => exact Or.inl ⟨_, .finish f⟩
  | turn t => exact Or.inl ⟨_, .turn t f⟩
  | faceEast => exact Or.inl ⟨_, .faceEast f⟩
  | faceWest => exact Or.inl ⟨_, .faceWest f⟩
  | reverseIf => exact Or.inl ⟨_, .reverseIf f⟩
  | nop => exact Or.inl ⟨_, .nop f⟩

theorem effect_eq_ok_iff : i.effect f = .ok () f' ↔ Completes i f f' := by
  refine ⟨fun hok => ?_, fun h => h.effect_eq⟩
  rcases completes_or_faults i f with ⟨m, hm⟩ | ⟨fault, m, hm⟩
  · rw [hm.effect_eq] at hok
    cases hok
    exact hm
  · rw [hm.effect_eq] at hok
    cases hok

/-! ### What a completed instruction keeps -/

theorem Completes.continues (h : Completes i f f') : f'.pointer.Continues f.pointer := by
  cases h with
  | digit d f => exact .setRegister _ _
  | clear f => exact .setRegister _ _
  | operate => exact .setRegister _ _
  | turn t f => exact .turn _ t
  | faceEast f => exact ⟨rfl, rfl, rfl, rfl, fun _ => .east⟩
  | faceWest f => exact ⟨rfl, rfl, rfl, rfl, fun _ => .west⟩
  | reverseIf f =>
    dsimp only
    split
    · exact .turn _ .half
    · exact .refl _
  | _ => exact .refl _

theorem Completes.pos_eq (h : Completes i f f') : f'.pointer.pos = f.pointer.pos := by
  cases h with
  | reverseIf f =>
    dsimp only
    split <;> rfl
  | _ => rfl

theorem Completes.halted (h : Completes i f f') : f'.halted = (f.halted || i == .finish) := by
  cases h <;> simp [Scene.note]

/-- What has been observed stays. -/
theorem Completes.events_prefix (h : Completes i f f') : f.events <+: f'.events := by
  cases h <;> simp [Scene.note]

/-! ### What a fault keeps -/

theorem Faults.pointer_eq (h : Faults i f fault f') : f'.pointer = f.pointer := by
  cases h <;> rfl

theorem Faults.events_prefix (h : Faults i f fault f') : f.events <+: f'.events := by
  cases h <;> simp [Scene.note]

theorem Faults.halted_eq (h : Faults i f fault f') : f'.halted = f.halted := by
  cases h <;> rfl

/-- The arithmetic overflows, or it divides by zero. -/
theorem apply_eq_error {op : Operator} {v w : Word} (h : op.apply v w = .error fault) :
    fault = .overflow ∨ op = .div ∧ fault = .zeroDivisor := by
  cases op with
  | sub => exact Or.inl (orOverflow_eq_error h)
  | add => exact Or.inl (orOverflow_eq_error h)
  | mul => exact Or.inl (shiftedProduct_eq_error h)
  | div => exact (shiftedQuotient_eq_error h).imp_right fun hf => ⟨rfl, hf⟩

/-- A fault of the arithmetic has used up the operand. -/
theorem Faults.pop_of_arithmetic (h : Faults i f fault f')
    (hf : fault = .overflow ∨ fault = .zeroDivisor) :
    ∃ entry, f.stack.pop? = some (entry, f'.stack) := by
  cases h with
  | unsetOperand op _ hp => exact ⟨_, hp⟩
  | arithmetic _ hp _ => exact ⟨_, hp⟩
  | _ => rcases hf with hf | hf <;> cases hf

/-- Any other fault leaves the stack as it was, if no entry of it is unset. -/
theorem Faults.stack_eq (h : Faults i f fault f') (hset : f.stack.IsSet)
    (ho : fault ≠ .overflow) (hz : fault ≠ .zeroDivisor) : f'.stack = f.stack := by
  cases h with
  | unsetOperand op _ hp => exact absurd rfl (hset.pop hp).1
  | arithmetic _ _ hr =>
    rcases apply_eq_error hr with hf | ⟨-, hf⟩
    · exact absurd hf ho
    · exact absurd hf hz
  | _ => rfl

/-- A value without a glyph is that of the register. -/
theorem Faults.register_of_noGlyph {v : Word} (h : Faults i f (.noGlyph v) f') :
    f.pointer.register = some v := by
  cases h with
  | noGlyph hv _ => exact hv
  | arithmetic _ _ hr => rcases apply_eq_error hr with hf | ⟨-, hf⟩ <;> cases hf

/-- The codes of the faults that an instruction can come to. -/
def codes : Instruction → List ErrorCode
  | output => [.noGlyph, .refusedOutput]
  | push => [.unsetRegister]
  | operate .div => [.unsetRegister, .emptyStack, .overflow, .zeroDivisor]
  | operate _ => [.unsetRegister, .emptyStack, .overflow]
  | _ => []

theorem Faults.code_mem_codes (h : Faults i f fault f') : fault.code ∈ i.codes := by
  cases h with
  | unsetOperate op => cases op <;> decide
  | emptyStack op => cases op <;> decide
  | unsetOperand op => cases op <;> decide
  | @arithmetic op _ _ _ _ _ _ _ hr =>
    rcases apply_eq_error hr with rfl | ⟨rfl, rfl⟩
    · cases op <;> decide
    · decide
  | _ => simp [codes, Fault.code]

/-! ### What both keep -/

theorem Completes.stack_isSet (h : Completes i f f') (hset : f.stack.IsSet) :
    f'.stack.IsSet := by
  cases h with
  | push => exact hset.push _
  | operate _ hp _ => exact (hset.pop hp).2
  | _ => exact hset

theorem Faults.stack_isSet (h : Faults i f fault f') (hset : f.stack.IsSet) :
    f'.stack.IsSet := by
  cases h with
  | unsetOperand op _ hp => exact (hset.pop hp).2
  | arithmetic _ hp _ => exact (hset.pop hp).2
  | _ => exact hset

end Instruction

end RuneGrid
