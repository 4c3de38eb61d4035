import RuneGrid.Proofs.Execution.Blame
import RuneGrid.Proofs.Execution.Done
import RuneGrid.Proofs.Execution.Halting
import RuneGrid.Proofs.Grid.Source

/-!
# Reports agree with themselves

A report is put together from the result of a load or a run and from what the run has left.  Its
parts have to fit: an error of a load has at most a place in the source (`Report.Problem.IsLoad`), an
error of a run has a site, and it comes one tick after those that have got done, unless these have
used up the limit (`Report.Problem.IsRun`).  The pointers are those of the start glyphs on the grid
of the report (`Execution.Placed.map_starts`), and what has been written is glyphs of the language
(`Execution.Session.isOutput`).

`Report.consistent_of_source` puts it together for the report of any source.
-/

namespace RuneGrid

/-! ### Errors of a load -/

/-- Where a source cannot be read, line and column count from 1. -/
theorem Grid.parse_error_cases {source : String} {e : LoadError} (h : parse source = .error e) :
    e = .emptySource ∨ ∃ line column found, e = .unknownMark (line + 1) (column + 1) found := by
  by_cases hs : source = ""
  · subst hs
    exact Or.inl (Except.error.inj (h.symm.trans parse_empty))
  · obtain ⟨pre, line, post, -, -, hline⟩ := exists_line_of_parse_error hs h
    obtain ⟨before, cluster, after, found, -, -, -, rfl⟩ := Pentimal.exists_of_readLine_error hline
    exact Or.inr ⟨pre.length, before.length, found, rfl⟩

theorem Program.load_eq_error_iff {source : String} {e : LoadError} :
    load source = .error e ↔ Grid.parse source = .error e := by
  unfold load
  exact map_eq_error_iff

namespace Report.Problem

/-- What a report says about an error of a load: there is a place if the code is that of an
unreadable cluster, and none if it is that of an empty source. -/
structure IsLoad (problem : Report.Problem) : Prop where
  phase : problem.phase = .load
  placed : problem.line.isSome ∧ problem.column.isSome ↔ problem.code.id = "RNR0002"
  unplaced : problem.line = none ∧ problem.column = none ↔ problem.code.id = "RNR0001"

/-- What a report says about an error of a run after this many ticks: there is a site, and the tick
is the next one, unless the limit was reached. -/
structure IsRun (problem : Report.Problem) (ticks : Nat) : Prop where
  phase : problem.phase ≠ .load
  unplaced : problem.line = none ∧ problem.column = none
  spent : problem.code.id = "RNR0107" → problem.tick = some ticks ∧ problem.site = none
  failed : problem.code.id ≠ "RNR0107" → problem.tick = some (ticks + 1) ∧ problem.site.isSome

theorem isLoad {source : String} {e : LoadError} (h : Program.load source = .error e) :
    (ofLoadError e).IsLoad := by
  rcases Grid.parse_error_cases (Program.load_eq_error_iff.1 h) with rfl | ⟨line, column, found, rfl⟩
  · exact ⟨rfl, by decide, by decide⟩
  · refine ⟨rfl, ?_, ?_⟩
    · simp [ofLoadError, LoadError.line, LoadError.code, ErrorCode.id, ErrorCode.idStart]
    · simp [ofLoadError, LoadError.line, LoadError.code, ErrorCode.id, ErrorCode.idStart]

end Report.Problem

/-! ### Errors of a run -/

theorem RunError.phase_ne_load (e : RunError) : e.code.phase ≠ .load := by
  cases e with
  | faulted fault => cases fault <;> exact nofun
  | offGrid => exact nofun
  | outOfTicks => exact nofun

theorem RunError.id_ne_of_ne_outOfTicks {e : RunError} (h : ∀ n, e ≠ .outOfTicks n) :
    e.code.id ≠ "RNR0107" := by
  cases e with
  | faulted fault => cases fault <;> simp [code, Fault.code, ErrorCode.id, ErrorCode.idStart]
  | offGrid => simp [code, ErrorCode.id, ErrorCode.idStart]
  | outOfTicks n => exact absurd rfl (h n)

namespace Execution

variable {σ : Type} [Sink σ] {s : Execution σ} {us : List (Execution σ)} {r : Run σ} {e : RunError}

/-- The error of a tick has a site, and names that tick. -/
theorem site_and_tick_of_result (h : s.tick.result = .error e) :
    e.site?.isSome ∧ e.tick = s.ticks + 1 := by
  obtain ⟨k, p, f, -, -, hstop⟩ := exists_cut h
  have hblames := hstop.blames
  rw [hblames.site]
  exact ⟨rfl, hblames.tick⟩

/-- **How the error of a run is reported.** -/
theorem Runs.problem_isRun (h : s.Runs us r) (he : r.result = .error e) :
    (Report.Problem.ofRunError e).IsRun r.final.ticks := by
  obtain ⟨n, hdone, hticks, ⟨-, hok | hspent⟩ | ⟨e', -, hfails, he'⟩⟩ := h.getsDone
  · rw [he] at hok
    cases hok
  · rw [he] at hspent
    cases hspent
    exact ⟨nofun, ⟨rfl, rfl⟩, fun _ => ⟨rfl, rfl⟩, fun hid => absurd rfl hid⟩
  · rw [he] at he'
    cases he'
    obtain ⟨hsite, htick⟩ := site_and_tick_of_result hfails
    have hid := RunError.id_ne_of_ne_outOfTicks (ne_outOfTicks_of_result hfails)
    rw [hdone.ticks_after, ← hticks] at htick
    exact ⟨RunError.phase_ne_load _, ⟨rfl, rfl⟩, fun h => absurd h hid,
      fun _ => ⟨congrArg some htick, hsite⟩⟩

end Execution

/-! ### The pointers -/

/-- The start glyphs. -/
def Glyph.starts : List Char :=
  ['ᛌ', 'ᛍ', 'ᛊ', 'ᛋ']

/-- The cells of these rows that hold a start glyph, row by row and from left to right. -/
def startsOf (rows : List String) : List (Vec × Char) :=
  (rows.zipIdx.flatMap fun (row, y) => row.toList.zipIdx.map fun (c, x) =>
    ((⟨x, y⟩ : Vec), c)).filter fun (_, c) => c ∈ Glyph.starts

theorem startsOf_render (g : Grid) :
    startsOf g.render = g.cells.filter fun (_, c) => c ∈ Glyph.starts := by
  unfold startsOf Grid.render Grid.cells
  rw [List.zipIdx_map, List.flatMap_map]
  simp

/-- Start glyphs, and no others, set off a pointer, and that remembers where and by which one. -/
theorem Pointer.map_spawn? (pos : Vec) (c : Char) :
    (spawn? 0 pos c).map (fun p => (p.origin, p.symbol)) =
      Option.guard (fun cell => cell.2 ∈ Glyph.starts) (pos, c) := by
  unfold spawn? Heading.ofGlyph?
  split
  case h_5 hne hso hse hsc =>
    have hno : c ∉ Glyph.starts := by
      simp only [Glyph.starts, List.mem_cons, List.not_mem_nil, or_false, not_or]
      exact ⟨hne, hso, hse, hsc⟩
    have hguard : Option.guard (fun cell : Vec × Char => cell.2 ∈ Glyph.starts) (pos, c) = none :=
      Option.guard_eq_none_iff.2 (decide_eq_false hno)
    rw [hguard]
    rfl
  all_goals rfl

/-- The pointers of a grid are those of its start glyphs. -/
theorem Grid.map_pointers (g : Grid) :
    g.pointers.map (fun p => (p.origin, p.symbol)) = startsOf g.render := by
  rw [map_pointers_eq fun _ _ => rfl, startsOf_render, ← List.filterMap_eq_filter]
  exact congrArg (List.filterMap · g.cells) (funext fun (pos, c) => Pointer.map_spawn? pos c)

/-! ### What is written -/

/-- The glyphs that a program can write. -/
def Glyph.IsOutput (c : Char) : Prop :=
  c ∈ alphabet ∨ c = separator

theorem Pointer.isOutput_of_glyph {p : Pointer} {c : Char} (h : p.glyph = .ok c) :
    Glyph.IsOutput c := by
  unfold glyph at h
  split at h
  · cases h
    exact Or.inr rfl
  · split at h
    · next v _ d hd =>
      cases h
      obtain ⟨n, -, hn⟩ := Option.bind_eq_some_iff.1 hd
      exact Or.inl (List.mem_of_getElem? hn)
    · cases h

section

variable {σ : Type} [Sink σ] [LawfulSink σ] {g : Grid} {n : Nat} {f f' : Scene σ}

/-- All that the sink has taken are glyphs of the language. -/
def Shared.IsOutput (shared : Shared σ) : Prop :=
  ∀ c ∈ (Sink.transcript shared.sink).toList, Glyph.IsOutput c

theorem Instruction.Completes.isOutput {i : Instruction} (h : i.Completes f f')
    (hf : f.toShared.IsOutput) : f'.toShared.IsOutput := by
  cases h with
  | @output _ glyph sink hg hs =>
    intro c hc
    change c ∈ (Sink.transcript sink).toList at hc
    rw [LawfulSink.transcript_of_taken hs, String.toList_push] at hc
    rcases List.mem_append.1 hc with hc | hc
    · exact hf c hc
    · obtain rfl := List.mem_singleton.1 hc
      exact Pointer.isOutput_of_glyph hg
  | _ => exact hf

theorem Pass.isOutput {ps : List Pointer} {shared : Shared σ} (h : shared.IsOutput) :
    (run g n ps shared).shared.IsOutput := by
  refine shared_induction (I := Shared.IsOutput) (fun c f f' _ hm => hm.isOutput)
    (fun c f f' fault _ hf hs => ?_) h
  unfold Shared.IsOutput
  rw [Execution.transcript_of_faults hf]
  exact hs

end

namespace Execution

variable {program : Program} {limit : Option Nat} {es : List RunError} {s : Execution Transcript}

/-- **A program writes glyphs of the language and nothing else.** -/
theorem Session.isOutput (h : (ofProgram program Transcript.empty limit).Session es s) :
    s.toShared.IsOutput := by
  refine h.invariant (I := fun t => t.toShared.IsOutput) ?_ fun t _ ht => ?_
  · intro c hc
    cases hc
  · rw [toShared_next]
    exact Pass.isOutput ht

/-- The pointers of a session remember where they have started. -/
theorem Placed.map_starts (hp : program.Built) (h : Placed program es s) :
    s.pointers.map (fun p => (p.origin, p.symbol)) = startsOf s.grid.render := by
  have hsame : s.pointers.map (fun p => (p.origin, p.symbol)) =
      program.pointers.map (fun p => (p.origin, p.symbol)) := by
    rw [← List.forall₂_eq_eq_eq, List.forall₂_map_left_iff, List.forall₂_map_right_iff]
    refine h.pointers.imp fun p q hpq => ?_
    rw [hpq.1.origin, hpq.1.symbol]
  rw [hsame, hp.eq_ofGrid, h.grid]
  exact Grid.map_pointers _

end Execution

/-! ### The report -/

namespace Report

/-- The report of a source: it is loaded, and run if it can be.  There is none if the run does not
end. -/
def ofSource (source : String) (limit : Option Nat) : Option Report :=
  match Program.load source with
  | .error e => some (.ofLoadError e)
  | .ok program => (Execution.ofProgram program Transcript.empty limit).run?.map .ofRun

/-- The parts of the report of a source that fit together. -/
structure IsConsistent (source : String) (report : Report) : Prop where
  ok_iff : report.ok = true ↔ report.error = none
  halted_of_ok : report.ok = true → report.halted = true
  /-- The error is one of the load if and only if the source cannot be loaded. -/
  load_iff : (∃ problem, report.error = some problem ∧ problem.phase = .load) ↔
    ∃ e, Program.load source = .error e
  /-- Then nothing has been run, and the error may have a place. -/
  load : ∀ e, Program.load source = .error e →
    (report.ticks = 0 ∧ report.halted = false ∧ report.output = "" ∧ report.grid = [] ∧
      report.pointers = [] ∧ report.stack = []) ∧
    ∃ problem, report.error = some problem ∧ problem.IsLoad
  /-- Otherwise an error is one of the run. -/
  run : ∀ program problem, Program.load source = .ok program → report.error = some problem →
    problem.IsRun report.ticks
  stack : ∀ entry ∈ report.stack, entry ≠ none
  /-- The pointers are numbered in the order of the list. -/
  ids : report.pointers.map (·.id) = List.range report.pointers.length
  /-- They are those of the start glyphs on the grid of the report. -/
  starts : report.pointers.map (fun p => (p.origin, p.symbol)) = startsOf report.grid
  output : ∀ c ∈ report.output.toList, Glyph.IsOutput c

variable {source : String} {limit : Option Nat} {report : Report}

theorem isConsistent_of_error {e : LoadError} (h : Program.load source = .error e) :
    IsConsistent source (ofLoadError e) where
  ok_iff := iff_of_false nofun nofun
  halted_of_ok := nofun
  load_iff := iff_of_true ⟨_, rfl, (Problem.isLoad h).phase⟩ ⟨e, h⟩
  load e' _ := ⟨⟨rfl, rfl, rfl, rfl, rfl, rfl⟩, _, rfl, Problem.isLoad h⟩
  run program problem hok _ := by
    rw [h] at hok
    cases hok
  stack := nofun
  ids := rfl
  starts := rfl
  output := nofun

/-- The error in the report of a run is one of the run. -/
theorem isRun_of_ofRun {s : Execution Transcript} {us : List (Execution Transcript)}
    {r : Run Transcript} {problem : Problem} (h : s.Runs us r)
    (hproblem : (ofRun r).error = some problem) : problem.IsRun (ofRun r).ticks := by
  cases he : r.result with
  | ok n => simp [ofRun, he] at hproblem
  | error e =>
    simp only [ofRun, he, Option.some.injEq] at hproblem
    subst hproblem
    exact h.problem_isRun he

theorem isConsistent_of_run {program : Program} {r : Run Transcript}
    (h : Program.load source = .ok program)
    (hr : (Execution.ofProgram program Transcript.empty limit).run? = some r) :
    IsConsistent source (ofRun r) := by
  have hp : program.Built := .load source h
  obtain ⟨us, hus⟩ := Execution.exists_runs hr
  have hsession := Execution.Session.run .start hr
  have hplaced := hsession.placed hp
  constructor
  case ok_iff => cases he : r.result <;> simp [ofRun, he, Except.toBool]
  case halted_of_ok =>
    intro hok
    cases he : r.result with
    | ok n => exact (hus.done_of_ok he).1
    | error e => simp [ofRun, he, Except.toBool] at hok
  case load_iff =>
    refine iff_of_false ?_ ?_
    · rintro ⟨problem, hproblem, hphase⟩
      exact (isRun_of_ofRun hus hproblem).phase hphase
    · rintro ⟨e, he⟩
      rw [h] at he
      cases he
  case load =>
    intro e he
    rw [h] at he
    cases he
  case run =>
    intro program' problem _ hproblem
    exact isRun_of_ofRun hus hproblem
  case stack =>
    intro entry hmem hnone
    subst hnone
    exact hsession.stack_isSet (List.mem_reverse.1 hmem)
  case ids => exact hplaced.map_id hp
  case starts => exact hplaced.map_starts hp
  case output => exact hsession.isOutput

/-- **Reports agree with themselves.**  For every source and every limit under which the run ends,
the parts of the report fit together. -/
theorem consistent_of_source (h : ofSource source limit = some report) :
    IsConsistent source report := by
  unfold ofSource at h
  cases hload : Program.load source with
  | error e =>
    rw [hload] at h
    cases h
    exact isConsistent_of_error hload
  | ok program =>
    rw [hload] at h
    obtain ⟨r, hr, rfl⟩ := Option.map_eq_some_iff.1 h
    exact isConsistent_of_run hload hr

/-- A source that cannot be loaded, one whose run fails in its second tick with the program halted,
one that uses up its limit and one that succeeds. -/
theorem consistent_reports : ∃ unread failed spent done,
    (ofSource "ᛌ\u0301" none = some unread ∧ unread.IsConsistent "ᛌ\u0301" ∧
      unread.error.map (·.line) = some (some 1)) ∧
    (ofSource "ᛍᛍᛍ\nᛧᛟᛟ" none = some failed ∧ failed.IsConsistent "ᛍᛍᛍ\nᛧᛟᛟ" ∧
      failed.error.map (·.tick) = some (some 2) ∧ failed.ticks = 1 ∧ failed.halted = true) ∧
    (ofSource "ᛌᚭ" (some 2) = some spent ∧ spent.IsConsistent "ᛌᚭ" ∧
      spent.error.map (·.tick) = some (some 2) ∧ spent.ticks = 2 ∧ spent.output = "ᚠ") ∧
    (ofSource "ᛌ5ᚭᛧ" none = some done ∧ done.IsConsistent "ᛌ5ᚭᛧ" ∧
      done.error = none ∧ done.ticks = 4 ∧ done.output = "ᚴ") := by
  have hunread : ofSource "ᛌ\u0301" none = some _ := rfl
  have hfailed : ofSource "ᛍᛍᛍ\nᛧᛟᛟ" none = some _ := rfl
  have hspent : ofSource "ᛌᚭ" (some 2) = some _ := rfl
  have hdone : ofSource "ᛌ5ᚭᛧ" none = some _ := rfl
  exact ⟨_, _, _, _, ⟨hunread, consistent_of_source hunread, rfl⟩,
    ⟨hfailed, consistent_of_source hfailed, rfl, rfl, rfl⟩,
    ⟨hspent, consistent_of_source hspent, rfl, rfl, rfl⟩,
    ⟨hdone, consistent_of_source hdone, rfl, rfl, rfl⟩⟩

end Report

end RuneGrid
