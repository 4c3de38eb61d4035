import RuneGrid.Proofs.Execution.Done

/-!
# The stack is the only channel

What a pointer does depends on its grid, on its own position, velocity, bias and register, and on
the operands that it takes off the shared stack; not on its number, its place among the others or on
what these do.  `Pointer.Alike` is what two pointers have to share for that, possibly of different
programs over one grid, with different sinks.

The step is `alike_next`: alike pointers that take the same operands in a tick are alike after it,
and have written the same glyphs.  How many operands they take is decided by the cell under them
(`length_operandsOf_turn`), so equal sequences of operands are equal tick by tick, which gives the
run, `inStep_of_operands`.  A pointer that executes no arithmetic needs no operands and cannot fail
where nothing refuses its glyphs, so it can do without the others altogether (`getsDone_alone`).
`stack_is_only_channel` puts both together.
-/

namespace RuneGrid

variable {σ τ : Type}

/-! ### Operands and glyphs -/

/-- The entry that a pointer is seen to take off the stack. -/
def Event.operand? : Event → Option (Option Word)
  | .popped _ entry => some entry
  | _ => none

/-- The glyph that a pointer is seen to write. -/
def Event.glyph? : Event → Option Char
  | .emitted _ glyph => some glyph
  | _ => none

def operandsOf (events : List Event) : List (Option Word) :=
  events.filterMap Event.operand?

def glyphsOf (events : List Event) : List Char :=
  events.filterMap Event.glyph?

theorem operandsOf_append (es es' : List Event) :
    operandsOf (es ++ es') = operandsOf es ++ operandsOf es' :=
  List.filterMap_append

theorem glyphsOf_append (es es' : List Event) :
    glyphsOf (es ++ es') = glyphsOf es ++ glyphsOf es' :=
  List.filterMap_append

theorem operandsOf_note (f : Scene σ) (e : Event) :
    operandsOf (f.note e).events = operandsOf f.events ++ e.operand?.toList := by
  rw [Scene.note, operandsOf_append]
  cases e <;> rfl

theorem glyphsOf_note (f : Scene σ) (e : Event) :
    glyphsOf (f.note e).events = glyphsOf f.events ++ e.glyph?.toList := by
  rw [Scene.note, glyphsOf_append]
  cases e <;> rfl

/-- Scenes with the same glyphs have the same ones after events that are alike in this. -/
theorem glyphsOf_note_congr {f : Scene σ} {h : Scene τ} {e e' : Event}
    (hs : glyphsOf f.events = glyphsOf h.events) (he : e.glyph? = e'.glyph?) :
    glyphsOf (f.note e).events = glyphsOf (h.note e').events := by
  rw [glyphsOf_note, glyphsOf_note, hs, he]

/-- The number of operands that an instruction takes: those of the arithmetic take one. -/
def Instruction.arity : Instruction → Nat
  | operate _ => 1
  | _ => 0

/-- The number of operands that the cell under a pointer asks for. -/
def Pointer.arity (p : Pointer) (g : Grid) : Nat :=
  match g.cell p.pos with
  | some glyph => (Instruction.ofGlyph glyph).arity
  | none => 0

/-- What two pointers share that nothing on a grid tells apart. -/
structure Pointer.Alike (p q : Pointer) : Prop where
  pos : p.pos = q.pos
  velocity : p.velocity = q.velocity
  bias : p.bias = q.bias
  register : p.register = q.register

namespace Pointer.Alike

variable {p q : Pointer}

theorem symm (h : p.Alike q) : q.Alike p :=
  ⟨h.pos.symm, h.velocity.symm, h.bias.symm, h.register.symm⟩

theorem trans {r : Pointer} (h : p.Alike q) (h' : q.Alike r) : p.Alike r :=
  ⟨h.pos.trans h'.pos, h.velocity.trans h'.velocity, h.bias.trans h'.bias,
    h.register.trans h'.register⟩

theorem arity_eq (h : p.Alike q) (g : Grid) : p.arity g = q.arity g := by
  rw [arity, arity, h.pos]

theorem isNonzero_eq (h : p.Alike q) : p.isNonzero = q.isNonzero := by
  rw [isNonzero, isNonzero, h.register]

theorem glyph_eq (h : p.Alike q) : p.glyph = q.glyph := by
  rw [glyph, glyph, h.register]

theorem turn (h : p.Alike q) (t : Turn) : (p.turn t).Alike (q.turn t) :=
  ⟨h.pos, congrArg t.apply h.velocity, h.bias, h.register⟩

theorem face (h : p.Alike q) (heading : Vec) : (p.face heading).Alike (q.face heading) :=
  ⟨h.pos, rfl, h.bias, h.register⟩

theorem setRegister (h : p.Alike q) (v : Option Word) : (p.setRegister v).Alike (q.setRegister v) :=
  ⟨h.pos, h.velocity, h.bias, rfl⟩

theorem advance_pos_eq (h : p.Alike q) : p.advance.pos = q.advance.pos := by
  rw [advance, advance, h.pos, h.velocity]

theorem moved (h : p.Alike q) (pos : Vec) : ({ p with pos } : Pointer).Alike { q with pos } :=
  ⟨rfl, h.velocity, h.bias, h.register⟩

end Pointer.Alike

/-- Two scenes, perhaps of different programs, with alike pointers that have taken the same operands
and written the same glyphs. -/
structure Scene.Alike (f : Scene σ) (h : Scene τ) : Prop where
  pointer : f.pointer.Alike h.pointer
  operands : operandsOf f.events = operandsOf h.events
  glyphs : glyphsOf f.events = glyphsOf h.events

namespace Scene.Alike

variable {f : Scene σ} {h : Scene τ}

theorem start {p q : Pointer} (hp : p.Alike q) (shared : Shared σ) (shared' : Shared τ) :
    Scene.Alike ⟨shared, p, []⟩ ⟨shared', q, []⟩ :=
  ⟨hp, rfl, rfl⟩

/-- The announcement of a command takes no operand and writes no glyph. -/
theorem command (ha : f.Alike h) (glyph : Char) :
    Scene.Alike (f.note (.command f.pointer.id f.pointer.pos glyph))
      (h.note (.command h.pointer.id h.pointer.pos glyph)) := by
  refine ⟨ha.pointer, ?_, glyphsOf_note_congr ha.glyphs rfl⟩
  rw [operandsOf_note, operandsOf_note, ha.operands]
  rfl

end Scene.Alike

/-! ### One turn -/

section

variable [Sink σ] [Sink τ] {i : Instruction} {g : Grid} {f f' : Scene σ} {h h' : Scene τ}

theorem Instruction.Completes.length_operandsOf (hf : i.Completes f f') :
    (operandsOf f'.events).length = (operandsOf f.events).length + i.arity := by
  cases hf <;> simp [arity, operandsOf, Scene.note, Event.operand?]

theorem Instruction.Completes.operandsOf_eq (hf : i.Completes f f') (hi : i.arity = 0) :
    operandsOf f'.events = operandsOf f.events := by
  cases hf with
  | operate => cases hi
  | _ => simp [operandsOf, Scene.note, Event.operand?]

/-- **One instruction**, executed by alike pointers on the same operands. -/
theorem Instruction.Completes.alike (hf : i.Completes f f') (hh : i.Completes h h')
    (ha : f.Alike h) (hops : operandsOf f'.events = operandsOf h'.events) : f'.Alike h' := by
  have hp := ha.pointer
  cases hf with
  | output hg _ =>
    cases hh with
    | output hg' _ =>
      rw [hp.glyph_eq, hg'] at hg
      cases hg
      exact ⟨hp, hops, glyphsOf_note_congr ha.glyphs rfl⟩
  | push _ =>
    cases hh
    exact ⟨hp, hops, glyphsOf_note_congr ha.glyphs rfl⟩
  | operate hv _ hr =>
    cases hh with
    | operate hv' _ hr' =>
      rw [hp.register, hv'] at hv
      cases hv
      -- the operands are what they have taken before, and the same one more
      have htaken := hops
      simp only [operandsOf_note] at htaken
      rw [ha.operands] at htaken
      cases List.append_cancel_left htaken
      rw [hr'] at hr
      cases hr
      exact ⟨hp.setRegister _, hops, glyphsOf_note_congr ha.glyphs rfl⟩
  | digit d f =>
    cases hh
    exact ⟨hp.setRegister _, hops, ha.glyphs⟩
  | clear f =>
    cases hh
    exact ⟨hp.setRegister _, hops, ha.glyphs⟩
  | finish f =>
    cases hh
    exact ⟨hp, hops, ha.glyphs⟩
  | turn t f =>
    cases hh
    exact ⟨hp.turn t, hops, ha.glyphs⟩
  | faceEast f =>
    cases hh
    exact ⟨hp.face _, hops, ha.glyphs⟩
  | faceWest f =>
    cases hh
    exact ⟨hp.face _, hops, ha.glyphs⟩
  | reverseIf f =>
    cases hh
    refine ⟨?_, hops, ha.glyphs⟩
    dsimp only
    rw [hp.isNonzero_eq]
    split
    · exact hp.turn .half
    · exact hp
  | nop f =>
    cases hh
    exact ⟨hp, hops, ha.glyphs⟩

/-- Without arithmetic, an alike pointer gets the same done if nothing refuses its glyphs. -/
theorem Instruction.Completes.exists_alike (hf : i.Completes f f') (hi : i.arity = 0)
    {h : Scene Transcript} (ha : f.Alike h) : ∃ h', i.Completes h h' ∧ f'.Alike h' := by
  rcases i.completes_or_faults h with ⟨h', hh⟩ | ⟨fault, h', hfault⟩
  · refine ⟨h', hh, hf.alike hh ha ?_⟩
    rw [hf.operandsOf_eq hi, hh.operandsOf_eq hi, ha.operands]
  · cases hfault with
    | noGlyph hv hn =>
      cases hf with
      | output hg _ =>
        rw [ha.pointer.glyph_eq, glyph_eq_error_iff.2 ⟨_, hv, hn, rfl⟩] at hg
        cases hg
    | refused _ hs => cases hs
    | unsetPush hv =>
      cases hf with
      | push hv' =>
        rw [ha.pointer.register, hv] at hv'
        cases hv'
    | _ => cases hi

theorem Scene.Moves.length_operandsOf (hf : Moves g f f') :
    (operandsOf f'.events).length = (operandsOf f.events).length + f.pointer.arity g := by
  obtain ⟨hm, -⟩ := hf
  obtain ⟨glyph, hc, hm⟩ := hm.completes
  have hlen := hm.length_operandsOf
  rw [note, operandsOf_append, List.length_append] at hlen
  rw [Pointer.arity, hc]
  exact hlen

/-- **The turns of alike pointers** on the same operands. -/
theorem Scene.Moves.alike (hf : Moves g f f') (hh : Moves g h h') (ha : f.Alike h)
    (hops : operandsOf f'.events = operandsOf h'.events) : f'.Alike h' := by
  obtain ⟨hf, hland⟩ := hf
  obtain ⟨hh, hland'⟩ := hh
  obtain ⟨glyph, hc, hm⟩ := hf.completes
  obtain ⟨glyph', hc', hm'⟩ := hh.completes
  -- both stand on the same cell, and after its command both move on from there alike
  rw [ha.pointer.pos, hc'] at hc
  cases hc
  have hafter := hm.alike hm' (ha.command glyph) hops
  rw [hafter.pointer.bias, hafter.pointer.advance_pos_eq, hland'] at hland
  cases hland
  exact ⟨hafter.pointer.moved _, hops, hafter.glyphs⟩

/-- A turn without arithmetic that an alike pointer takes where nothing refuses its glyphs. -/
theorem Scene.Moves.exists_alike (hf : Moves g f f') (hp : f.pointer.arity g = 0)
    {h : Scene Transcript} (ha : f.Alike h) : ∃ h', Moves g h h' ∧ f'.Alike h' := by
  obtain ⟨hf, hland⟩ := hf
  obtain ⟨glyph, hc, hm⟩ := hf.completes
  rw [Pointer.arity, hc] at hp
  obtain ⟨m', hm', hafter⟩ := hm.exists_alike hp (ha.command glyph)
  rw [hafter.pointer.bias, hafter.pointer.advance_pos_eq] at hland
  rw [ha.pointer.pos] at hc
  exact ⟨_, .intro ⟨glyph, hc, hm'.effect_eq⟩ hland, hafter.pointer.moved _, hafter.operands,
    hafter.glyphs⟩

end

/-! ### One tick -/

namespace Execution

variable [Sink σ] [Sink τ] {s : Execution σ} {u : Execution τ} {p q : Pointer} {i j k n : Nat}

omit [Sink τ] in
/-- The cell under a pointer decides how many operands it takes in a tick that gets done. -/
theorem length_operandsOf_turn (h : s.pass.error? = none) (hi : s.pointers[i]? = some p) :
    (operandsOf (s.turn i)).length = p.arity s.grid := by
  obtain ⟨-, f, hf, -⟩ := exists_move h hi
  rw [turn_of_moves hi hf, hf.length_operandsOf]
  exact Nat.zero_add _

/-- **A tick of alike pointers** on the same operands. -/
theorem alike_next (hg : s.grid = u.grid) (hs : s.pass.error? = none) (hu : u.pass.error? = none)
    (hi : s.pointers[i]? = some p) (hj : u.pointers[j]? = some q) (ha : p.Alike q)
    (hops : operandsOf (s.turn i) = operandsOf (u.turn j)) :
    glyphsOf (s.turn i) = glyphsOf (u.turn j) ∧ ∃ p' q', s.tick.next.pointers[i]? = some p' ∧
      u.tick.next.pointers[j]? = some q' ∧ p'.Alike q' := by
  obtain ⟨-, f, hf, hnext⟩ := exists_move hs hi
  obtain ⟨-, h, hh, hnext'⟩ := exists_move hu hj
  rw [turn_of_moves hi hf, turn_of_moves hj hh] at hops ⊢
  rw [← hg] at hh
  have hafter := hf.alike hh (.start ha _ _) hops
  exact ⟨hafter.glyphs, _, _, hnext, hnext', hafter.pointer⟩

/-! ### Several ticks -/

/-- What is seen of the turns of pointer `k` in the next `n` ticks. -/
def turns (s : Execution σ) (k : Nat) : Nat → List Event
  | 0 => []
  | n + 1 => s.turn k ++ s.tick.next.turns k n

/-- In the next `n` ticks, pointer `i` of `s` and pointer `j` of `u` are alike after each tick, and
have written the same glyphs. -/
def InStep (s : Execution σ) (i : Nat) (u : Execution τ) (j n : Nat) : Prop :=
  ∀ k ≤ n, glyphsOf (s.turns i k) = glyphsOf (u.turns j k) ∧ ∃ p q,
    (s.after k).pointers[i]? = some p ∧ (u.after k).pointers[j]? = some q ∧ p.Alike q

/-- In the next `n` ticks, pointer `i` comes to no cell that asks for operands. -/
def NoArithmetic (s : Execution σ) (i n : Nat) : Prop :=
  ∀ k < n, ∀ p ∈ (s.after k).pointers[i]?, p.arity s.grid = 0

/-- The program that consists of one pointer. -/
def alone (g : Grid) (p : Pointer) : Execution Transcript :=
  ofProgram ⟨g, [p]⟩ .empty none

theorem InStep.cons (hi : s.pointers[i]? = some p) (hj : u.pointers[j]? = some q) (ha : p.Alike q)
    (hglyphs : glyphsOf (s.turn i) = glyphsOf (u.turn j))
    (hrest : s.tick.next.InStep i u.tick.next j n) : s.InStep i u j (n + 1) := by
  intro k hk
  cases k with
  | zero => exact ⟨rfl, p, q, hi, hj, ha⟩
  | succ k =>
    rw [turns, turns, glyphsOf_append, glyphsOf_append, hglyphs, ← after_next, ← after_next]
    obtain ⟨hrest, hpointers⟩ := hrest k (Nat.le_of_succ_le_succ hk)
    exact ⟨congrArg (_ ++ ·) hrest, hpointers⟩

omit [Sink τ] in
theorem NoArithmetic.next (h : s.NoArithmetic i (n + 1)) : s.tick.next.NoArithmetic i n := by
  intro k hk
  rw [after_next, grid_next]
  exact h (k + 1) (Nat.succ_lt_succ hk)

/-- **Alike pointers on the same operands stay in step**, and so do alike pointers of which one
executes no arithmetic. -/
theorem inStep_of_operands (hg : s.grid = u.grid) (hs : s.GetsDone n) (hu : u.GetsDone n)
    (hi : s.pointers[i]? = some p) (hj : u.pointers[j]? = some q) (ha : p.Alike q)
    (hops : operandsOf (s.turns i n) = operandsOf (u.turns j n) ∨ s.NoArithmetic i n) :
    s.InStep i u j n := by
  induction n generalizing s u p q with
  | zero =>
    intro k hk
    obtain rfl := Nat.le_zero.1 hk
    exact ⟨rfl, p, q, hi, hj, ha⟩
  | succ n ih =>
    have hlen := length_operandsOf_turn hs.first hi
    have hlen' := length_operandsOf_turn hu.first hj
    rw [← hg, ← ha.arity_eq] at hlen'
    -- as many operands in this tick as there, so the same ones, now and later
    obtain ⟨hnow, hlater⟩ : operandsOf (s.turn i) = operandsOf (u.turn j) ∧
        (operandsOf (s.tick.next.turns i n) = operandsOf (u.tick.next.turns j n) ∨
          s.tick.next.NoArithmetic i n) := by
      rcases hops with hops | hno
      · rw [turns, turns, operandsOf_append, operandsOf_append] at hops
        exact (List.append_inj hops (hlen.trans hlen'.symm)).imp_right Or.inl
      · have hzero := hno 0 (Nat.succ_pos n) p hi
        rw [hzero] at hlen hlen'
        rw [List.eq_nil_of_length_eq_zero hlen, List.eq_nil_of_length_eq_zero hlen']
        exact ⟨rfl, Or.inr hno.next⟩
    obtain ⟨hglyphs, p', q', hi', hj', ha'⟩ := alike_next hg hs.first hu.first hi hj ha hnow
    refine .cons hi hj ha hglyphs (ih ?_ hs.next hu.next hi' hj' ha' hlater)
    rw [grid_next, grid_next, hg]

/-- **A pointer that executes no arithmetic gets through alone** where it gets through with
others. -/
theorem getsDone_alone {u : Execution Transcript} (hg : s.grid = u.grid) (hs : s.GetsDone n)
    (hi : s.pointers[i]? = some p) (hu : u.pointers = [q]) (ha : p.Alike q)
    (hno : s.NoArithmetic i n) : u.GetsDone n := by
  induction n generalizing s u p q with
  | zero => exact nofun
  | succ n ih =>
    obtain ⟨-, f, hf, hnext⟩ := exists_move hs.first hi
    obtain ⟨h, hh, hafter⟩ := hf.exists_alike (hno 0 (Nat.succ_pos n) p hi) (.start ha _ u.toShared)
    rw [hg] at hh
    have hpass : u.pass = ⟨[h.pointer], h.toShared, h.events ++ [], none⟩ := by
      rw [pass, hu, Pass.run_cons_of_moves hh]
      rfl
    refine .succ (result_ok_iff.2 ?_) (ih ?_ hs.next hnext ?_ hafter.pointer hno.next)
    · rw [hpass]
    · rw [grid_next, grid_next, hg]
    · rw [pointers_next, hpass]

/-- **The stack is the only channel between pointers.**  Let pointer `i` of `s` be alike to pointer
`j` of `u`, a state over the same grid, perhaps with quite other pointers and another sink, and let
`n` ticks of both get done.  If the two take the same operands in their turns, then they are alike
after each of these ticks and write the same glyphs.  A pointer that comes to no arithmetic does so
whatever the others take and put, and also alone, where its ticks get done as well. -/
theorem stack_is_only_channel (hi : s.pointers[i]? = some p) (hs : s.GetsDone n) :
    (∀ {τ : Type} [Sink τ] (u : Execution τ) (j : Nat) (q : Pointer), s.grid = u.grid →
      u.pointers[j]? = some q → p.Alike q → u.GetsDone n →
      operandsOf (s.turns i n) = operandsOf (u.turns j n) ∨ s.NoArithmetic i n →
      s.InStep i u j n) ∧
    (s.NoArithmetic i n → (alone s.grid p).GetsDone n ∧ s.InStep i (alone s.grid p) 0 n) := by
  have ha : p.Alike p := ⟨rfl, rfl, rfl, rfl⟩
  refine ⟨fun u j q hg hj ha hu hops => inStep_of_operands hg hs hu hi hj ha hops, fun hno => ?_⟩
  have hdone : (alone s.grid p).GetsDone n := getsDone_alone (s := s) rfl hs hi rfl ha hno
  exact ⟨hdone, inStep_of_operands rfl hs hdone hi rfl ha (Or.inr hno)⟩

/-- Pointer 0 of `lanes` adds what it takes off the stack, pointer 1 writes.  With the two in the
other order, and their numbers exchanged, the one that adds takes the same operand and stays in
step; the one that writes stays in step alone. -/
theorem lanes_keep_apart : ∃ s u p q r,
    s = ofProgram .lanes Transcript.empty none ∧
    u = ofProgram ⟨Program.lanes.grid,
      Program.lanes.pointers.reverse.mapIdx fun id p => { p with id }⟩
      Transcript.empty (some 5) ∧
    s.GetsDone 3 ∧ u.GetsDone 3 ∧
    (s.pointers[0]? = some p ∧ u.pointers[1]? = some q ∧ p.Alike q ∧ p.id ≠ q.id) ∧
    (operandsOf (s.turns 0 3) = [some 0] ∧ operandsOf (u.turns 1 3) = [some 0]) ∧
    s.InStep 0 u 1 3 ∧ s.pointers[1]? = some r ∧ s.NoArithmetic 1 3 ∧
    (alone Program.lanes.grid r).GetsDone 3 ∧ s.InStep 1 (alone Program.lanes.grid r) 0 3 := by
  obtain ⟨s, hs⟩ : ∃ s, ofProgram .lanes Transcript.empty none = s := ⟨_, rfl⟩
  obtain ⟨u, hu⟩ : ∃ u, ofProgram ⟨Program.lanes.grid,
      Program.lanes.pointers.reverse.mapIdx fun id p => { p with id }⟩
      Transcript.empty (some 5) = u := ⟨_, rfl⟩
  have hgrid : s.grid = Program.lanes.grid := congrArg (·.grid) hs.symm
  have hgrid' : s.grid = u.grid := hgrid.trans (congrArg (·.grid) hu)
  obtain ⟨hs₀, hs₁, hs₂, hu₀, hu₁, hu₂, hops, hops', hno⟩ :
      s.tick.result = .ok false ∧ s.tick.next.tick.result = .ok false ∧
      s.tick.next.tick.next.tick.result = .ok false ∧
      u.tick.result = .ok false ∧ u.tick.next.tick.result = .ok false ∧
      u.tick.next.tick.next.tick.result = .ok false ∧
      operandsOf (s.turns 0 3) = [some 0] ∧ operandsOf (u.turns 1 3) = [some 0] ∧
      ∀ k < 3, ∀ p ∈ (s.after k).pointers[1]?, p.arity s.grid = 0 := by
    subst hs hu
    decide +kernel
  obtain ⟨p, q, r, hp, hq, hr, halike, hid⟩ : ∃ p q r, s.pointers[0]? = some p ∧
      u.pointers[1]? = some q ∧ s.pointers[1]? = some r ∧ p.Alike q ∧ p.id ≠ q.id := by
    subst hs hu
    exact ⟨_, _, _, rfl, rfl, rfl, ⟨rfl, rfl, rfl, rfl⟩, by decide⟩
  have hdone : s.GetsDone 3 := .succ ⟨_, hs₀⟩ (.succ ⟨_, hs₁⟩ (.succ ⟨_, hs₂⟩ nofun))
  have hdone' : u.GetsDone 3 := .succ ⟨_, hu₀⟩ (.succ ⟨_, hu₁⟩ (.succ ⟨_, hu₂⟩ nofun))
  have hinStep := (stack_is_only_channel hp hdone).1 u 1 q hgrid' hq halike hdone'
    (Or.inl (hops.trans hops'.symm))
  obtain ⟨halone, hinStep'⟩ := (stack_is_only_channel hr hdone).2 hno
  rw [hgrid] at halone hinStep'
  exact ⟨s, u, p, q, r, hs.symm, hu.symm, hdone, hdone', ⟨hp, hq, halike, hid⟩,
    ⟨hops, hops'⟩, hinStep, hr, hno, halone, hinStep'⟩

end Execution

end RuneGrid
