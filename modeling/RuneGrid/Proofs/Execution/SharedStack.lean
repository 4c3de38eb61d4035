import RuneGrid.Proofs.Execution.Stepping
import RuneGrid.Proofs.Stack.Uses

/-!
# The history of the shared stack

`s.usesBefore n k` lists what the pointers have done with the stack in the first `n` ticks from `s`,
and in the next one before the turn of pointer `k`.  A turn adds what its cell, its register and the
stack say (`Pointer.uses`), whether it gets done or not (`Scene.Moves.uses`, `Scene.Stops.uses`).
So the stack has served what is listed (`serves_usesBefore`), and what is known of such stacks
applies.  An arithmetic cell computes with the value that it takes (`HasTurn.operates`).

`stack_follows_history` states it for a program at its start and any number of ticks, failed ones
among them.
-/

namespace RuneGrid

variable {σ : Type}

/-! ### What a turn does with the stack -/

namespace StackUse

def ofEvent? : Event → Option StackUse
  | .pushed _ v => some (.put v)
  | .popped _ entry => some (.take entry)
  | _ => none

/-- The uses of the stack that an observer sees. -/
def ofEvents (events : List Event) : List StackUse :=
  events.filterMap ofEvent?

theorem ofEvents_append (es es' : List Event) :
    ofEvents (es ++ es') = ofEvents es ++ ofEvents es' :=
  List.filterMap_append

theorem ofEvents_note (e : Event) (f : Scene σ) :
    ofEvents (f.note e).events = ofEvents f.events ++ (ofEvent? e).toList := by
  rw [Scene.note, ofEvents_append]
  cases e <;> rfl

end StackUse

open StackUse (ofEvents ofEvents_append ofEvents_note)

/-- What an instruction does with the stack.  One of the arithmetic does it before it computes. -/
def Instruction.uses : Instruction → Option Word → Stack → List StackUse
  | push, some v, _ => [.put v]
  | operate _, some _, stack => (stack.top?.map .take).toList
  | _, _, _ => []

/-- What a pointer does with the stack in its turn. -/
def Pointer.uses (p : Pointer) (g : Grid) (stack : Stack) : List StackUse :=
  match g.cell p.pos with
  | some glyph => (Instruction.ofGlyph glyph).uses p.register stack
  | none => []

/-- The uses `us` are what happens to the stack, and what is seen of it, between two scenes. -/
structure Scene.Uses (f : Scene σ) (us : List StackUse) (f' : Scene σ) : Prop where
  events : ofEvents f'.events = ofEvents f.events ++ us
  stack : f.stack.Serves us f'.stack

namespace Scene.Uses

variable {f f' : Scene σ} {us : List StackUse} {shared : Shared σ} {p : Pointer}

theorem refl (f : Scene σ) : f.Uses [] f :=
  ⟨(List.append_nil _).symm, .start⟩

/-- The announcement of a command is no use of the stack. -/
theorem of_command {id : Nat} {pos : Vec} {glyph : Char}
    (h : (f.note (.command id pos glyph)).Uses us f') : f.Uses us f' := by
  obtain ⟨hevents, hstack⟩ := h
  rw [ofEvents_note] at hevents
  refine ⟨?_, hstack⟩
  rw [hevents, List.append_assoc]
  rfl

/-- At the start of a turn, nothing has been seen. -/
theorem ofEvents_eq (h : Scene.Uses ⟨shared, p, []⟩ us f) : ofEvents f.events = us :=
  h.events

theorem serves (h : Scene.Uses ⟨shared, p, []⟩ us f) :
    shared.stack.Serves (ofEvents f.events) f.stack := by
  rw [h.ofEvents_eq]
  exact h.stack

end Scene.Uses

section

variable [Sink σ] {i : Instruction} {op : Operator} {f f' m : Scene σ} {fault : Fault} {g : Grid}
  {n : Nat} {e : RunError} {v : Word} {entry : Option Word} {stack rest : Stack}

theorem Instruction.uses_operate_of_pop (h : stack.pop? = some (entry, rest)) :
    (operate op).uses (some v) stack = [.take entry] := by
  rw [uses, Stack.top?_of_pop? h]
  rfl

theorem Instruction.uses_operate_of_empty (h : stack.pop? = none) :
    (operate op).uses (some v) stack = [] := by
  rw [uses, Stack.top?_of_empty h]
  rfl

theorem Instruction.pop?_of_uses (h : (operate op).uses (some v) stack = [.take entry]) :
    ∃ rest, stack.pop? = some (entry, rest) := by
  cases hp : stack.pop? with
  | none =>
    rw [uses_operate_of_empty hp] at h
    cases h
  | some popped =>
    obtain ⟨top, rest⟩ := popped
    rw [uses_operate_of_pop hp] at h
    cases h
    exact ⟨rest, rfl⟩

theorem Instruction.Completes.uses (h : i.Completes f f') :
    f.Uses (i.uses f.pointer.register f.stack) f' := by
  cases h with
  | push hv =>
    rw [hv]
    exact ⟨ofEvents_note _ _, .put .start _⟩
  | operate hv hp _ =>
    rw [hv, uses_operate_of_pop hp]
    exact ⟨ofEvents_note _ _, .take .start hp⟩
  | output => exact ⟨ofEvents_note _ _, .start⟩
  | _ => exact ⟨(List.append_nil _).symm, .start⟩

theorem Instruction.Faults.uses (h : i.Faults f fault f') :
    f.Uses (i.uses f.pointer.register f.stack) f' := by
  cases h with
  | emptyStack op hv hp =>
    rw [hv, uses_operate_of_empty hp]
    exact .refl _
  | unsetOperand op hv hp =>
    rw [hv, uses_operate_of_pop hp]
    exact ⟨ofEvents_note _ _, .take .start hp⟩
  | arithmetic hv hp _ =>
    rw [hv, uses_operate_of_pop hp]
    exact ⟨ofEvents_note _ _, .take .start hp⟩
  | unsetPush hv =>
    rw [hv]
    exact .refl _
  | unsetOperate op hv =>
    rw [hv]
    exact .refl _
  | _ => exact ⟨(List.append_nil _).symm, .start⟩

theorem Instruction.Faults.pop_of_emptyStack (h : (operate op).Faults f .emptyStack f') :
    f.stack.pop? = none := by
  cases h with
  | emptyStack _ _ hp => exact hp
  | arithmetic _ _ hr => rcases apply_eq_error hr with hf | ⟨-, hf⟩ <;> cases hf

/-- The arithmetic gets the value that has been taken. -/
theorem Instruction.Completes.of_operate {w : Word}
    (h : (Instruction.operate op).Completes f f')
    (hv : f.pointer.register = some v) (hp : f.stack.pop? = some (some w, rest)) :
    ∃ result, op.apply v w = .ok result ∧ f'.pointer.register = some result := by
  cases h with
  | operate hv' hp' hr =>
    rw [hv] at hv'
    rw [hp] at hp'
    cases hv'
    cases hp'
    exact ⟨_, hr, rfl⟩

theorem Instruction.Faults.of_operate {w : Word}
    (h : (Instruction.operate op).Faults f fault f')
    (hv : f.pointer.register = some v) (hp : f.stack.pop? = some (some w, rest)) :
    op.apply v w = .error fault := by
  cases h with
  | unsetOperate _ hv' =>
    rw [hv] at hv'
    cases hv'
  | emptyStack _ _ hp' =>
    rw [hp] at hp'
    cases hp'
  | unsetOperand _ _ hp' =>
    rw [hp] at hp'
    cases hp'
  | arithmetic hv' hp' hr =>
    rw [hv] at hv'
    rw [hp] at hp'
    cases hv'
    cases hp'
    exact hr

theorem Scene.Executes.uses (h : Executes g f m) : f.Uses (f.pointer.uses g f.stack) m := by
  obtain ⟨glyph, hc, hm⟩ := h.completes
  rw [Pointer.uses, hc]
  exact .of_command hm.uses

/-- **A turn that gets done** does with the stack what the cell and the register say. -/
theorem Scene.Moves.uses (h : Moves g f f') : f.Uses (f.pointer.uses g f.stack) f' := by
  obtain ⟨hm, -⟩ := h
  exact ⟨hm.uses.events, hm.uses.stack⟩

/-- **A turn that fails** does the same. -/
theorem Scene.Stops.uses (h : Stops g n f e f') : f.Uses (f.pointer.uses g f.stack) f' := by
  cases h with
  | offGrid hc =>
    rw [Pointer.uses, hc]
    exact .refl _
  | faulted hc hf =>
    rw [Pointer.uses, hc]
    exact .of_command hf.uses
  | stranded hm => exact ⟨hm.uses.events, hm.uses.stack⟩

/-! ### Passes -/

namespace Pass

variable {ps pre post : List Pointer} {p : Pointer} {shared : Shared σ}

/-- A pass over one pointer. -/
theorem ofEvents_run_singleton (g : Grid) (n : Nat) (p : Pointer) (shared : Shared σ) :
    ofEvents (run g n [p] shared).events = p.uses g shared.stack := by
  rcases Scene.moves_or_stops g n ⟨shared, p, []⟩ with ⟨f, hf⟩ | ⟨e, f, hf⟩
  · rw [run_cons_of_moves hf, ofEvents_append, hf.uses.ofEvents_eq]
    exact List.append_nil _
  · rw [run_cons_of_stops hf, hf.uses.ofEvents_eq]

/-- **The stack serves what is seen of a pass**, whether it gets through or not. -/
theorem serves (g : Grid) (n : Nat) (ps : List Pointer) (shared : Shared σ) :
    shared.stack.Serves (ofEvents (run g n ps shared).events) (run g n ps shared).shared.stack := by
  induction ps generalizing shared with
  | nil => exact .start
  | cons p ps ih =>
    rcases Scene.moves_or_stops g n ⟨shared, p, []⟩ with ⟨f, hf⟩ | ⟨e, f, hf⟩
    · rw [run_cons_of_moves hf, ofEvents_append]
      exact hf.uses.serves.trans (ih f.toShared)
    · rw [run_cons_of_stops hf]
      exact hf.uses.serves

/-- A pass that has stopped does not go on. -/
theorem run_append_of_failed (h : (run g n pre shared).error? = some e) :
    (run g n (pre ++ post) shared).events = (run g n pre shared).events ∧
      (run g n (pre ++ post) shared).shared = (run g n pre shared).shared := by
  obtain ⟨before, p, after, f, rfl, hdone, hs⟩ := exists_stop h
  rw [List.append_assoc, List.cons_append, run_of_stops hdone hs, run_of_stops hdone hs]
  exact ⟨rfl, rfl⟩

end Pass

end

/-! ### Ticks -/

namespace Execution

variable [Sink σ] {s : Execution σ} {k n : Nat} {p : Pointer}

/-- Pointer `k` is `p`, and it has its turn in the next tick. -/
structure HasTurn (s : Execution σ) (k : Nat) (p : Pointer) : Prop where
  pointer : s.pointers[k]? = some p
  reached : (s.cut k).pass.error? = none

theorem HasTurn.ofEvents_cut_succ (h : s.HasTurn k p) :
    ofEvents (s.cut (k + 1)).pass.events =
      ofEvents (s.cut k).pass.events ++ p.uses s.grid (s.cut k).pass.shared.stack := by
  rw [cut_succ, h.pointer]
  show ofEvents (Pass.run (s.cut k).grid ((s.cut k).ticks + 1) ((s.cut k).pointers ++ [p])
    (s.cut k).toShared).events = _
  rw [Pass.run_append_of_done h.reached, ofEvents_append, Pass.ofEvents_run_singleton]
  rfl

/-- If nobody has a turn, nothing happens. -/
theorem cut_succ_of_not_hasTurn (h : ∀ p, ¬ s.HasTurn k p) :
    (s.cut (k + 1)).pass.events = (s.cut k).pass.events ∧
      (s.cut (k + 1)).pass.shared = (s.cut k).pass.shared := by
  rw [cut_succ]
  cases he : (s.cut k).pass.error? with
  | some e => exact Pass.run_append_of_failed he
  | none =>
    cases hp : s.pointers[k]? with
    | some p => exact absurd ⟨hp, he⟩ (h p)
    | none =>
      rw [Option.toList_none, List.append_nil]
      exact ⟨rfl, rfl⟩

theorem ofEvents_tick (s : Execution σ) : ofEvents s.tick.events = ofEvents s.pass.events := by
  rw [tick_eq]
  split
  · rfl
  · rw [ofEvents_append]
    exact List.append_nil _

/-- What the pointers have done with the stack in the first `n` ticks. -/
def uses (s : Execution σ) : Nat → List StackUse
  | 0 => []
  | n + 1 => s.uses n ++ ofEvents (s.after n).tick.events

/-- What they have done with it in the first `n` ticks, and in the next one before pointer `k`. -/
def usesBefore (s : Execution σ) (n k : Nat) : List StackUse :=
  s.uses n ++ ofEvents ((s.after n).cut k).pass.events

/-- The stack after `n` ticks and the turns before pointer `k` in the next one. -/
def stackBefore (s : Execution σ) (n k : Nat) : Stack :=
  ((s.after n).cut k).pass.shared.stack

theorem serves_uses (s : Execution σ) (n : Nat) :
    s.stack.Serves (s.uses n) (s.after n).stack := by
  induction n with
  | zero => exact .start
  | succ n ih =>
    rw [uses, after, toShared_next, ofEvents_tick]
    exact ih.trans (Pass.serves _ _ _ _)

/-- **The stack has served what is listed.** -/
theorem serves_usesBefore (s : Execution σ) (n k : Nat) :
    s.stack.Serves (s.usesBefore n k) (s.stackBefore n k) :=
  (s.serves_uses n).trans (Pass.serves _ _ _ _)

/-! ### Operands that are missing -/

/-- The next tick fails at pointer `k`, for which there is no operand on the stack. -/
def Underflows (s : Execution σ) (k : Nat) : Prop :=
  ∃ site n, s.tick.result = .error (.faulted .emptyStack site n) ∧ site.pointer = k

theorem HasTurn.underflows_iff {program : Program} {es : List RunError} (hp : program.Built)
    (hs : Placed program es s) (h : s.HasTurn k p) {glyph : Char} {op : Operator} {v : Word}
    (hc : s.grid.cell p.pos = some glyph) (hop : Instruction.ofGlyph glyph = .operate op)
    (hv : p.register = some v) :
    s.Underflows k ↔ (s.cut k).pass.shared.stack.pop? = none := by
  constructor
  · rintro ⟨site, n, he, rfl⟩
    obtain ⟨j, q, f, hq, -, hstop⟩ := exists_cut he
    cases hstop with
    | faulted hc' hf =>
      -- the pointer at fault is the one that the error names
      have hj : q.id = j := hs.id_eq hp hq
      subst hj
      obtain rfl : p = q := Option.some.inj (h.pointer.symm.trans hq)
      obtain rfl : glyph = _ := Option.some.inj (hc.symm.trans hc')
      rw [hop] at hf
      exact hf.pop_of_emptyStack
  · intro hempty
    obtain ⟨f, hfault⟩ : ∃ f, (Instruction.ofGlyph glyph).Faults
        (Scene.note (.command p.id p.pos glyph) ⟨(s.cut k).pass.shared, p, []⟩) .emptyStack f := by
      rw [hop]
      exact ⟨_, .emptyStack op hv hempty⟩
    refine ⟨⟨p.id, p.pos, some glyph⟩, s.ticks + 1, ?_, hs.id_eq hp h.pointer⟩
    rw [result_eq_error_iff, pass_of_stops h.pointer h.reached (.faulted hc hfault)]

/-! ### Operands that are there -/

/-- A turn gets done or stops the tick, and the pointer stays as its turn has left it. -/
theorem HasTurn.exists_next (h : s.HasTurn k p) :
    ∃ f, s.tick.next.pointers[k]? = some f.pointer ∧
      (Scene.Moves s.grid ⟨(s.cut k).pass.shared, p, []⟩ f ∨
        ∃ e, s.tick.result = .error e ∧
          Scene.Stops s.grid (s.ticks + 1) ⟨(s.cut k).pass.shared, p, []⟩ e f) := by
  rcases Scene.moves_or_stops s.grid (s.ticks + 1) ⟨(s.cut k).pass.shared, p, []⟩ with
    ⟨f, hf⟩ | ⟨e, f, hf⟩
  · exact ⟨f, next_of_moves h.pointer h.reached hf, .inl hf⟩
  · obtain ⟨-, hnext, -⟩ := next_of_stops h.pointer h.reached hf
    refine ⟨f, hnext, .inr ⟨e, ?_, hf⟩⟩
    rw [result_eq_error_iff, pass_of_stops h.pointer h.reached hf]

/-- What comes of an arithmetic cell for which the register and the stack have values `v` and `w`: a
result in the register, or the fault of the arithmetic. -/
theorem HasTurn.operates {program : Program} {es : List RunError} (hp : program.Built)
    (hs : Placed program es s) (h : s.HasTurn k p) {glyph : Char} {op : Operator} {v w : Word}
    {rest : Stack} (hc : s.grid.cell p.pos = some glyph)
    (hop : Instruction.ofGlyph glyph = .operate op) (hv : p.register = some v)
    (hpop : (s.cut k).pass.shared.stack.pop? = some (some w, rest)) :
    (∃ result q, op.apply v w = .ok result ∧ s.tick.next.pointers[k]? = some q ∧
        q.register = some result) ∨
      ∃ fault site n, op.apply v w = .error fault ∧
        s.tick.result = .error (.faulted fault site n) ∧ site.pointer = k := by
  have hexecutes : ∀ m, Scene.Executes s.grid ⟨(s.cut k).pass.shared, p, []⟩ m →
      ∃ result, op.apply v w = .ok result ∧ m.pointer.register = some result := by
    rintro m hm
    obtain ⟨glyph', hc', hdone⟩ := hm.completes
    obtain rfl : glyph = glyph' := Option.some.inj (hc.symm.trans hc')
    rw [hop] at hdone
    exact hdone.of_operate hv hpop
  obtain ⟨f, hnext, hmoves | ⟨e, he, hstops⟩⟩ := h.exists_next
  · obtain ⟨hm, -⟩ := hmoves
    obtain ⟨result, happly, hresult⟩ := hexecutes _ hm
    exact .inl ⟨result, _, happly, hnext, hresult⟩
  · cases hstops with
    | offGrid hnone =>
      rw [hc] at hnone
      cases hnone
    | faulted hc' hf =>
      obtain rfl : glyph = _ := Option.some.inj (hc.symm.trans hc')
      rw [hop] at hf
      exact .inr ⟨_, _, _, hf.of_operate hv hpop, he, hs.id_eq hp h.pointer⟩
    | stranded hm =>
      obtain ⟨result, happly, hresult⟩ := hexecutes _ hm
      exact .inl ⟨result, _, happly, hnext, hresult⟩

/-! ### From the start -/

/-- The uses before pointer `k` in the tick after `n` ones, after a put of the 0 with which the
stack starts. -/
def history (s : Execution σ) (n k : Nat) : List StackUse :=
  .put 0 :: s.usesBefore n k

/-- What the stack holds and hands out in the ticks from `s` is what the pointers have put on it
before. -/
structure FollowsHistory (s : Execution σ) : Prop where
  start : s.usesBefore 0 0 = []
  /-- The uses are those of the turns that pointers have, in the order of their numbers. -/
  turn : ∀ n k p, (s.after n).HasTurn k p → p.id = k ∧
    s.usesBefore n (k + 1) = s.usesBefore n k ++ p.uses (s.after n).grid (s.stackBefore n k)
  idle : ∀ n k, (∀ p, ¬ (s.after n).HasTurn k p) →
    s.usesBefore n (k + 1) = s.usesBefore n k ∧ s.stackBefore n (k + 1) = s.stackBefore n k
  next : ∀ n, s.usesBefore (n + 1) 0 = s.usesBefore n (s.after n).pointers.length ∧
    s.stackBefore (n + 1) 0 = s.stackBefore n (s.after n).pointers.length
  between : ∀ n, s.stackBefore n 0 = (s.after n).stack
  /-- A take gets the value of the latest put before it that no take in between has got. -/
  yields : ∀ n k j entry, (s.history n k)[j]? = some (.take entry) →
    ∃ i, StackUse.Takes (s.history n k) i j ∧ StackUse.IsValueAt (s.history n k) i entry
  /-- An operand is missing if and only if all that has been put has been taken. -/
  underflows : ∀ n k p glyph op v, (s.after n).HasTurn k p →
    (s.after n).grid.cell p.pos = some glyph → Instruction.ofGlyph glyph = .operate op →
    p.register = some v →
    ((s.after n).Underflows k ↔
      ∀ i, StackUse.PutAt (s.history n k) i → ∃ j, StackUse.Takes (s.history n k) i j)
  /-- The arithmetic gets the register and the value that has been taken for it. -/
  computes : ∀ n k p glyph op v entry, (s.after n).HasTurn k p →
    (s.after n).grid.cell p.pos = some glyph → Instruction.ofGlyph glyph = .operate op →
    p.register = some v → s.usesBefore n (k + 1) = s.usesBefore n k ++ [.take entry] →
    ∃ w, entry = some w ∧
      ((∃ result q, op.apply v w = .ok result ∧ (s.after (n + 1)).pointers[k]? = some q ∧
          q.register = some result) ∨
        ∃ fault site m, op.apply v w = .error fault ∧
          (s.after n).tick.result = .error (.faulted fault site m) ∧ site.pointer = k)
  isSet : ∀ n k, (s.stackBefore n k).IsSet
  size : ∀ n k, (s.stackBefore n k).size + (s.usesBefore n k).countP (·.isTake) =
    1 + (s.usesBefore n k).countP (·.isPut)

/-- **The stack of a program follows its history**: in any number of ticks, whatever comes of them,
and between any two turns. -/
theorem stack_follows_history {program : Program} (hp : program.Built) (sink : σ)
    (limit : Option Nat) : (ofProgram program sink limit).FollowsHistory := by
  generalize hs : ofProgram program sink limit = s
  have hsession : ∀ n, ∃ es, (ofProgram program sink limit).Session es (s.after n) := by
    rw [hs]
    exact s.exists_session_after
  have hserves : ∀ n k, Stack.initial.Serves (s.usesBefore n k) (s.stackBefore n k) := by
    intro n k
    have h := s.serves_usesBefore n k
    rw [← hs] at h ⊢
    exact h
  have haccounts : ∀ n k, StackUse.Accounts (s.history n k) (s.stackBefore n k) := fun n k =>
    .of_serves (hserves n k)
  have hturn : ∀ n k p, (s.after n).HasTurn k p → p.id = k ∧
      s.usesBefore n (k + 1) = s.usesBefore n k ++ p.uses (s.after n).grid (s.stackBefore n k) := by
    intro n k p h
    obtain ⟨es, hes⟩ := hsession n
    refine ⟨(hes.placed hp).id_eq hp h.pointer, ?_⟩
    rw [usesBefore, h.ofEvents_cut_succ, ← List.append_assoc]
    rfl
  have hset : ∀ n k, (s.stackBefore n k).IsSet := by
    intro n k
    obtain ⟨es, hes⟩ := hsession n
    exact pass_stack_isSet (s := (s.after n).cut k) hes.stack_isSet
  refine ⟨rfl, hturn, fun n k h => ?_, fun n => ?_, fun n => rfl, fun n k => (haccounts n k).yields,
    fun n k p glyph op v h hc hop hv => ?_, fun n k p glyph op v entry h hc hop hv htake => ?_,
    hset, fun n k => (hserves n k).size⟩
  · obtain ⟨hevents, hshared⟩ := cut_succ_of_not_hasTurn h
    rw [usesBefore, hevents, stackBefore, hshared]
    exact ⟨rfl, rfl⟩
  · rw [usesBefore, usesBefore, stackBefore, stackBefore, cut_length, uses, ofEvents_tick]
    refine ⟨List.append_nil _, ?_⟩
    show (s.after (n + 1)).stack = _
    rw [after, toShared_next]
  · obtain ⟨es, hes⟩ := hsession n
    exact (h.underflows_iff hp (hes.placed hp) hc hop hv).trans (haccounts n k).pop?_eq_none_iff
  · obtain ⟨es, hes⟩ := hsession n
    obtain ⟨rest, hpop⟩ : ∃ rest, (s.stackBefore n k).pop? = some (entry, rest) := by
      have huses := List.append_cancel_left ((hturn n k p h).2.symm.trans htake)
      rw [Pointer.uses, hc] at huses
      dsimp only at huses
      rw [hop, hv] at huses
      exact Instruction.pop?_of_uses huses
    obtain ⟨w, rfl⟩ := Option.ne_none_iff_exists'.1 ((hset n k).pop hpop).1
    exact ⟨w, rfl, h.operates hp (hes.placed hp) hc hop hv hpop⟩

/-- In the second tick of `scarce`, the addition of pointer 1 takes the 0 with which the stack
starts, so there is no operand for that of pointer 2. -/
theorem scarce_follows_history : Program.scarce.Built ∧
    (ofProgram .scarce Transcript.empty none).history 1 2 = [.put 0, .take (some 0)] ∧
    StackUse.Takes [.put 0, .take (some 0)] 0 1 ∧
    ((ofProgram .scarce Transcript.empty none).after 1).Underflows 2 := by
  have h := stack_follows_history Program.built_scarce Transcript.empty none
  have ht : StackUse.Takes [.put 0, .take (some 0)] 0 1 := by
    obtain ⟨i, hi, -⟩ := h.yields 1 2 1 (some 0) rfl
    obtain rfl : i = 0 := Nat.lt_one_iff.1 hi.lt
    exact hi
  refine ⟨Program.built_scarce, rfl, ht, ?_⟩
  refine (h.underflows 1 2 _ _ _ _ ⟨rfl, rfl⟩ rfl rfl rfl).2 fun i hi => ⟨1, ?_⟩
  have hlt : i < 2 := hi.lt
  obtain rfl | rfl : i = 0 ∨ i = 1 := by omega
  · exact ht
  · obtain ⟨v, hv⟩ := hi
    cases hv

end Execution

end RuneGrid
