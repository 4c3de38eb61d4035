import Mathlib.Data.List.Nodup
import RuneGrid.Proofs.Execution.Session
import RuneGrid.Proofs.Program

/-!
# Where the pointers are

The invariant of a session, `Execution.Placed`: the grid is that of the program, pointer
by pointer the numbers, origins, start glyphs and biases are those at the start, every
velocity is one of the four directions, and a pointer stands on a cell unless an earlier
error has reported it off the grid.

`Pass.forall₂_turned` is the step: it holds for a pass that gets through as for one that
stops half way, so `Placed.tick` has no case for a failed tick.  `Session.placed` is the
run, and `positions_and_identities` reads the invariant off.
-/

namespace RuneGrid

variable {σ : Type} {g : Grid} {n : Nat}

/-! ### Lists side by side -/

theorem forall₂_of_forall₂ {α β γ : Type} {R : α → β → Prop} {S : α → γ → Prop}
    {T : β → γ → Prop} {as : List α} {bs : List β} {cs : List γ}
    (h : ∀ a b c, R a b → S a c → T b c) (hr : List.Forall₂ R as bs)
    (hs : List.Forall₂ S as cs) : List.Forall₂ T bs cs := by
  induction hr generalizing cs with
  | nil =>
    cases hs
    exact .nil
  | cons hr _ ih =>
    cases hs with
    | cons hs htl => exact .cons (h _ _ _ hr hs) (ih htl)

theorem getElem?_of_forall₂ {α β : Type} {R : α → β → Prop} {as : List α} {bs : List β}
    (h : List.Forall₂ R as bs) {i : Nat} {a : α} (ha : as[i]? = some a) :
    ∃ b, bs[i]? = some b ∧ R a b := by
  induction h generalizing i with
  | nil => cases ha
  | cons hr _ ih =>
    cases i with
    | zero =>
      cases ha
      exact ⟨_, rfl, hr⟩
    | succ i => exact ih ha

/-! ### Errors that report a pointer off the grid -/

/-- The error says that pointer `i` is off the grid. -/
def RunError.Strands (e : RunError) (i : Nat) : Prop :=
  e.code = .offGrid ∧ ∃ site, e.site? = some site ∧ site.pointer = i

theorem RunError.not_strands_outOfTicks {i : Nat} : ¬ (RunError.outOfTicks n).Strands i := by
  rintro ⟨h, -⟩
  cases h

theorem Scene.Stops.strands_iff [Sink σ] {f f' : Scene σ} {e : RunError}
    (h : Stops g n f e f') {i : Nat} : e.Strands i ↔ e.code = .offGrid ∧ i = f.pointer.id := by
  obtain ⟨site, hsite, hid⟩ := h.site
  constructor
  · rintro ⟨hc, site', hsite', rfl⟩
    rw [hsite] at hsite'
    cases hsite'
    exact ⟨hc, hid⟩
  · rintro ⟨hc, rfl⟩
    exact ⟨hc, site, hsite, hid⟩

/-! ### A pass -/

/-- What a pass makes of a pointer: it stays on the page unless the error of the pass reports it. -/
def Pass.Turned (g : Grid) (error? : Option RunError) (p q : Pointer) : Prop :=
  q.Continues p ∧
    ((g.cell q.pos).isSome ↔ (g.cell p.pos).isSome ∧ ∀ e ∈ error?, ¬ e.Strands p.id)

/-- **What a pass makes of the pointers**, whether it gets through or not. -/
theorem Pass.forall₂_turned [Sink σ] {ps : List Pointer} {shared : Shared σ}
    (hnd : (ps.map (·.id)).Nodup) :
    List.Forall₂ (Turned g (run g n ps shared).error?) ps (run g n ps shared).pointers := by
  cases he : (run g n ps shared).error? with
  | none =>
    refine (forall₂_of_done he).imp fun p q hpq => ?_
    obtain ⟨hc, hp, hq⟩ := hpq
    exact ⟨hc, by simp [hp, hq]⟩
  | some e =>
    obtain ⟨pre, p, post, f, rfl, hpre, hs⟩ := exists_stop he
    rw [run_of_stops hpre hs]
    rw [List.map_append, List.map_cons, List.nodup_append, List.nodup_cons] at hnd
    obtain ⟨-, ⟨hpost, -⟩, hdisj⟩ := hnd
    -- the error names `p`, and no other pointer has its number
    have hother : ∀ q : Pointer, q.id ≠ p.id → ∀ e' ∈ some e, ¬ e'.Strands q.id := by
      rintro q hq e' ⟨⟩ hst
      exact hq (hs.strands_iff.1 hst).2
    refine List.rel_append ?_ (.cons ?_ ?_)
    · have hids : ∀ q ∈ pre, q.id ≠ p.id := fun q hq =>
        hdisj _ (List.mem_map_of_mem hq) _ List.mem_cons_self
      refine ((List.forall₂_and_left _ _).2 ⟨hids, forall₂_of_done hpre⟩).imp ?_
      rintro q r ⟨hid, hc, hq, hr⟩
      exact ⟨hc, iff_of_true hr ⟨hq, hother q hid⟩⟩
    · refine ⟨hs.continues, hs.cell_isSome_iff.trans (and_congr_right fun _ => ?_)⟩
      constructor
      · rintro hc e' ⟨⟩ hst
        exact hc hst.1
      · intro hst hc
        exact hst e rfl (hs.strands_iff.2 ⟨hc, rfl⟩)
    · refine List.forall₂_same.2 fun q hq => ⟨.refl q, ?_⟩
      have hid : q.id ≠ p.id := by
        intro he
        exact hpost (he ▸ List.mem_map_of_mem (f := (·.id)) hq)
      exact (and_iff_left (hother q hid)).symm

/-! ### A session -/

namespace Execution

variable {program : Program} {es : List RunError} {s t : Execution σ}
  {i : Nat} {p : Pointer}

/-- What holds of a pointer that started as `q`, after the errors `es`. -/
def PlacedAs (g : Grid) (es : List RunError) (p q : Pointer) : Prop :=
  p.Continues q ∧ ((g.cell p.pos).isSome ↔ ∀ e ∈ es, ¬ e.Strands p.id)

/-- The invariant of a session of a program, after the errors `es`. -/
structure Placed (program : Program) (es : List RunError) (s : Execution σ) : Prop where
  grid : s.grid = program.grid
  pointers : List.Forall₂ (PlacedAs program.grid es) s.pointers program.pointers

theorem Placed.map_id (hp : program.Built) (h : Placed program es s) :
    s.pointers.map (·.id) = List.range s.pointers.length := by
  rw [h.pointers.length_eq, ← hp.map_id, ← List.forall₂_eq_eq_eq, List.forall₂_map_left_iff,
    List.forall₂_map_right_iff]
  exact h.pointers.imp fun p q hpq => hpq.1.id

theorem Placed.id_eq (hp : program.Built) (h : Placed program es s)
    (hi : s.pointers[i]? = some p) : p.id = i := by
  obtain ⟨q, hq, hpq, -⟩ := getElem?_of_forall₂ h.pointers hi
  exact hpq.id.trans (hp.id_eq hq)

/-- A pointer of a session is row-sheared or has no vertical shift. -/
theorem Placed.bias_cases (hp : program.Built) (hs : Placed program es s)
    (hi : s.pointers[i]? = some p) :
    p.symbol = 'ᛊ' ∧ p.bias = ⟨0, 1⟩ ∨
      (p.symbol = 'ᛌ' ∨ p.symbol = 'ᛍ' ∨ p.symbol = 'ᛋ') ∧ p.bias.y = 0 := by
  obtain ⟨q, hq, hpq, -⟩ := getElem?_of_forall₂ hs.pointers hi
  have := (Heading.ofGlyph?_cases (hp.spawned (List.mem_of_getElem? hq)).heading).2
  rwa [← hpq.symbol, ← hpq.bias] at this

/-- A pointer whose bias has no vertical shift is not row-sheared. -/
theorem Placed.symbol_ne_of_flat (hp : program.Built) (hs : Placed program es s)
    (hi : s.pointers[i]? = some p) (hb : p.bias.y = 0) :
    ∃ q, program.pointers[i]? = some q ∧ q.symbol ≠ 'ᛊ' := by
  obtain ⟨q, hq, hpq, -⟩ := getElem?_of_forall₂ hs.pointers hi
  refine ⟨q, hq, ?_⟩
  rw [← hpq.symbol]
  rcases hs.bias_cases hp hi with ⟨-, hb1⟩ | ⟨hsym, -⟩
  · rw [hb1] at hb
    cases hb
  · rcases hsym with hsym | hsym | hsym <;> rw [hsym] <;> decide

theorem Placed.cardinal (hp : program.Built) (hs : Placed program es s)
    (hi : s.pointers[i]? = some p) : p.velocity.IsCardinal := by
  obtain ⟨q, hq, hpq, -⟩ := getElem?_of_forall₂ hs.pointers hi
  exact hpq.cardinal (Heading.ofGlyph?_cases (hp.spawned (List.mem_of_getElem? hq)).heading).1

theorem Placed.cell_isSome_iff (hp : program.Built) (hs : Placed program es s)
    (hi : s.pointers[i]? = some p) :
    (s.grid.cell p.pos).isSome ↔ ∀ e ∈ es, ¬ e.Strands i := by
  obtain ⟨q, -, -, hcell⟩ := getElem?_of_forall₂ hs.pointers hi
  rw [hs.grid, hcell, hs.id_eq hp hi]

theorem Placed.start (hp : program.Built) (sink : σ) (limit : Option Nat) :
    Placed program [] (ofProgram program sink limit) := by
  refine ⟨rfl, List.forall₂_same.2 fun p hmem => ⟨.refl p, ?_⟩⟩
  rw [(hp.spawned hmem).cell]
  simp

/-- **A tick keeps the invariant**, also if it fails. -/
theorem Placed.tick [Sink σ] (hp : program.Built) (h : Placed program es s) :
    Placed program (es ++ errorsOf s.tick.result) s.tick.next := by
  have hnd : (s.pointers.map (·.id)).Nodup := by
    rw [h.map_id hp]
    exact List.nodup_range
  refine ⟨by rw [grid_next, h.grid], ?_⟩
  rw [pointers_next]
  have hturned : List.Forall₂ (Pass.Turned s.grid s.pass.error?) s.pointers s.pass.pointers :=
    Pass.forall₂_turned hnd
  refine forall₂_of_forall₂ (fun p q r hpq hpr => ?_) hturned h.pointers
  obtain ⟨hc, hcell⟩ := hpr
  obtain ⟨hc', hcell'⟩ := hpq
  refine ⟨hc'.trans hc, ?_⟩
  rw [h.grid, hcell] at hcell'
  rw [hcell', hc'.id, List.forall_mem_append]
  refine and_congr_right fun _ => forall_congr' fun e => ?_
  rw [mem_errorsOf, result_eq_error_iff]
  rfl

/-- While everybody is on the page, a tick that reports a pointer has announced its command
before. -/
theorem Placed.command_mem [Sink σ] (hp : program.Built) (hs : Placed program es s)
    (hcells : ∀ p ∈ s.pointers, (s.grid.cell p.pos).isSome) {e : RunError}
    (he : s.tick.result = .error e) (hst : e.Strands i) :
    ∃ p glyph, s.pointers[i]? = some p ∧ s.grid.cell p.pos = some glyph ∧
      .command i p.pos glyph ∈ s.tick.events := by
  obtain ⟨k, p, f, hk, hcut, hstop⟩ := exists_cut he
  obtain ⟨-, hik⟩ := hstop.strands_iff.1 hst
  obtain rfl : i = k := hik.trans (hs.id_eq hp hk)
  obtain ⟨glyph, hcell, hmem⟩ := hstop.command_mem (hcells p (List.mem_of_getElem? hk))
  refine ⟨p, glyph, hk, hcell, s.pass_events_prefix.subset ?_⟩
  rw [pass_of_stops hk hcut hstop]
  rw [hs.id_eq hp hk] at hmem
  exact List.mem_append_right _ hmem

/-- A refused run moves nobody. -/
theorem Placed.spent (h : Placed program es s) (n : Nat) :
    Placed program (es ++ [.outOfTicks n]) s := by
  refine ⟨h.grid, h.pointers.imp fun p q hpq => ⟨hpq.1, hpq.2.trans ?_⟩⟩
  rw [List.forall_mem_append, List.forall_mem_singleton]
  exact (and_iff_left RunError.not_strands_outOfTicks).symm

theorem Session.placed [Sink σ] (hp : program.Built) {sink : σ} {limit : Option Nat}
    (h : (ofProgram program sink limit).Session es s) : Placed program es s :=
  h.induction (.start hp sink limit) (fun _ _ ht => ht.tick hp) (fun _ _ n ht => ht.spent n)

/-- **Positions and identities in a session.**  The grid and the number of pointers stay; every
pointer keeps its number, start glyph, origin and bias, moves in one of the four directions, and
stands on a cell unless an earlier error has reported it off the grid.  Until there is such an
error, all pointers stand on cells, and a tick that reports one has found the cell of the pointer
and announced its command before. -/
theorem positions_and_identities [Sink σ] (hp : program.Built) {sink : σ} {limit : Option Nat}
    (h : (ofProgram program sink limit).Session es s) :
    s.grid = program.grid ∧ s.pointers.length = program.pointers.length ∧
      (∀ i p, s.pointers[i]? = some p →
        p.id = i ∧ program.grid.cell p.origin = some p.symbol ∧ p.velocity.IsCardinal ∧
        (∃ q, program.pointers[i]? = some q ∧
          p.symbol = q.symbol ∧ p.origin = q.origin ∧ p.bias = q.bias) ∧
        ((s.grid.cell p.pos).isSome ↔ ∀ e ∈ es, ¬ e.Strands i)) ∧
      ((∀ e ∈ es, e.code ≠ .offGrid) →
        (∀ p ∈ s.pointers, (s.grid.cell p.pos).isSome) ∧
        ∀ e i, s.tick.result = .error e → e.Strands i →
          ∃ p glyph, s.pointers[i]? = some p ∧ s.grid.cell p.pos = some glyph ∧
            .command i p.pos glyph ∈ s.tick.events) := by
  have hs := h.placed hp
  refine ⟨hs.grid, hs.pointers.length_eq, fun i p hi => ?_, fun hno => ?_⟩
  · obtain ⟨q, hq, hpq, -⟩ := getElem?_of_forall₂ hs.pointers hi
    have hspawn := hp.spawned (List.mem_of_getElem? hq)
    refine ⟨hs.id_eq hp hi, ?_, hs.cardinal hp hi, ⟨q, hq, hpq.symbol, hpq.origin, hpq.bias⟩,
      hs.cell_isSome_iff hp hi⟩
    rw [hpq.origin, hspawn.origin, hspawn.cell, hpq.symbol]
  · have hcells : ∀ p ∈ s.pointers, (s.grid.cell p.pos).isSome := by
      intro p hmem
      obtain ⟨i, hi⟩ := List.getElem?_of_mem hmem
      exact (hs.cell_isSome_iff hp hi).2 fun e he hst => hno e he hst.1
    exact ⟨hcells, fun e i he hst => hs.command_mem hp hcells he hst⟩

/-- The pointer of `gap` starts on a cell, and is off the grid once a tick has reported it. -/
theorem gap_loses_pointer :
    ∃ es s, Program.gap.Built ∧ (ofProgram .gap Transcript.empty none).Session es s ∧
      (∀ p ∈ Program.gap.pointers, (Program.gap.grid.cell p.pos).isSome) ∧
      ∃ p, s.pointers[0]? = some p ∧ p.id = 0 ∧ s.grid.cell p.pos = none := by
  have hstart : (ofProgram .gap Transcript.empty none).Session [] _ := .start
  have h : (ofProgram .gap Transcript.empty none).Session _ _ := .tick .start
  obtain ⟨-, -, -, hno⟩ := positions_and_identities Program.built_gap hstart
  obtain ⟨-, -, hall, -⟩ := positions_and_identities Program.built_gap h
  obtain ⟨hid, -, -, -, hcell⟩ := hall 0 _ rfl
  refine ⟨_, _, Program.built_gap, h, (hno nofun).1, _, rfl, hid, ?_⟩
  rw [← Option.not_isSome_iff_eq_none, hcell]
  intro hall
  exact hall _ (List.mem_singleton.2 rfl) ⟨rfl, _, rfl, rfl⟩

end Execution

end RuneGrid
