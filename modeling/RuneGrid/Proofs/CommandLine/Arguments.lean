import Mathlib.Data.List.Nodup
import RuneGrid.CommandLine.Toolkit

/-!
# How options are spelled

The parts of a call come in any order (`Options.Spelled`): the file, and those options that it has.
A value stands in the argument behind its option or behind an equals sign, and the file may stand at
the end behind `--`.  Whatever reads the arguments has to find the options in such words
(`Toolkit.ReadsArguments`), as the standard tools do (`Toolkit.readsArguments_standard`).
-/

namespace RuneGrid

namespace CommandLine

/-! ### Words -/

/-- What a call can have once. -/
inductive Part
  | file
  | debug
  | quiet
  | maxTicks
  | reportPath
deriving DecidableEq

/-- The word cannot be taken for an option. -/
def IsPlain (word : String) : Prop :=
  ∃ c cs, word.toList = c :: cs ∧ c ≠ '-'

namespace Options

/-- The call has this part. -/
def has (o : Options) : Part → Bool
  | .file => true
  | .debug => o.debug
  | .quiet => o.quiet
  | .maxTicks => o.maxTicks.isSome
  | .reportPath => o.reportPath.isSome

/-- The words for a part. -/
inductive Phrases (o : Options) : Part → List String → Prop
  | file (h : IsPlain o.file) : o.Phrases .file [o.file]
  | debug : o.Phrases .debug ["--debug"]
  | quiet : o.Phrases .quiet ["--quiet"]
  | maxTicks {n : Nat} {word : String} (h : o.maxTicks = some n)
    (hn : Text.readNumber word = .ok n) (hword : IsPlain word) :
    o.Phrases .maxTicks ["--max-ticks", word]
  | maxTicksAttached {n : Nat} {word : String} (h : o.maxTicks = some n)
    (hn : Text.readNumber word = .ok n) :
    o.Phrases .maxTicks ["--max-ticks=" ++ word]
  | reportPath {path : String} (h : o.reportPath = some path) (hpath : IsPlain path) :
    o.Phrases .reportPath ["--report-json", path]
  | reportPathAttached {path : String} (h : o.reportPath = some path) (hpath : path ≠ "") :
    o.Phrases .reportPath ["--report-json=" ++ path]

/-- The arguments spell the options: all parts in some order, perhaps with `--` behind them, or the
file at the end behind `--`, where it can have any name. -/
inductive Spelled (o : Options) : List String → Prop
  | anyOrder {parts : List Part} {pieces : List (List String)} {last : List String}
    (hnodup : parts.Nodup) (hall : ∀ p, p ∈ parts ↔ o.has p)
    (hwords : List.Forall₂ o.Phrases parts pieces) (hlast : last = [] ∨ last = ["--"]) :
    o.Spelled (pieces.flatten ++ last)
  | fileLast {parts : List Part} {pieces : List (List String)}
    (hnodup : parts.Nodup) (hall : ∀ p, p ∈ parts ↔ p ≠ .file ∧ o.has p)
    (hwords : List.Forall₂ o.Phrases parts pieces) (hfile : o.file ≠ "") :
    o.Spelled (pieces.flatten ++ ["--", o.file])

end Options

/-- Arguments that spell options are read as these options. -/
def Toolkit.ReadsArguments (t : Toolkit) : Prop :=
  ∀ (o : Options) (words : List String), o.Spelled words → t.arguments words = .ok o

/-! ### Single arguments -/

theorem Argument.ofString_of_isPlain {word : String} (h : IsPlain word) :
    ofString word = .value word := by
  obtain ⟨c, cs, hword, hc⟩ := h
  unfold ofString
  rw [hword]
  split
  · cases ‹c :: cs = _›
    exact absurd rfl hc
  · cases ‹c :: cs = _›
    exact absurd rfl hc
  · cases ‹c :: cs = _›
    exact absurd rfl hc
  · rfl

theorem Argument.ofString_maxTicks (word : String) :
    ofString ("--max-ticks=" ++ word) = .long "max-ticks" (some word) := by
  unfold ofString
  rw [String.toList_append]
  simp

theorem Argument.ofString_reportPath (path : String) :
    ofString ("--report-json=" ++ path) = .long "report-json" (some path) := by
  unfold ofString
  rw [String.toList_append]
  simp

/-! ### Reading them one by one -/

variable {r s : Reading} {o : Options} {parts : List Part} {rest : List String}

theorem readArguments_value {word : String} (h : IsPlain word) :
    readArguments false r (word :: rest) =
      (r.takeValue false word).bind (readArguments false · rest) := by
  rw [readArguments, Argument.ofString_of_isPlain h]
  rfl

theorem readArguments_debug : readArguments false r ("--debug" :: rest) =
    (r.takeSwitch .debug).bind (readArguments false · rest) := by
  have hword : Argument.ofString "--debug" = .long "debug" none := rfl
  rw [readArguments, hword]
  rfl

theorem readArguments_quiet : readArguments false r ("--quiet" :: rest) =
    (r.takeSwitch .quiet).bind (readArguments false · rest) := by
  have hword : Argument.ofString "--quiet" = .long "quiet" none := rfl
  rw [readArguments, hword]
  rfl

theorem readArguments_maxTicks {word : String} {attached : Option String}
    (h : Argument.ofString word = .long "max-ticks" attached) :
    readArguments false r (word :: rest) =
      (r.takeSetting .maxTicks attached).bind (readArguments false · rest) := by
  rw [readArguments, h]
  rfl

theorem readArguments_reportPath {word : String} {attached : Option String}
    (h : Argument.ofString word = .long "report-json" attached) :
    readArguments false r (word :: rest) =
      (r.takeSetting .reportPath attached).bind (readArguments false · rest) := by
  rw [readArguments, h]
  rfl

/-! ### What is known on the way -/

/-- What is known once these parts of the call have been read and looked at. -/
def Options.known (o : Options) (parts : List Part) : Reading where
  debug := decide (.debug ∈ parts)
  quiet := decide (.quiet ∈ parts)
  maxTicks := if .maxTicks ∈ parts then o.maxTicks else none
  reportPath := if .reportPath ∈ parts then o.reportPath else none
  file := if .file ∈ parts then some o.file else none

theorem hasFile_of_settle (h : r.settle = .ok s) : r.hasFile = s.file.isSome := by
  unfold Reading.settle at h
  unfold Reading.hasFile
  rcases hpending : r.pending with _ | name | ⟨setting, _ | value⟩ <;> rw [hpending] at h
  case none =>
    cases h
    rfl
  case some.file =>
    dsimp only at h
    split at h
    · cases h
    · cases h
      rfl
  case some.setting.none => cases h
  case some.setting.some =>
    -- to assign a setting leaves the file
    unfold Reading.assign at h
    cases setting <;> dsimp only at h ⊢ <;> split at h <;> try cases h
    · split at h <;> cases h
      rfl
    · split at h <;> cases h
      rfl

theorem takeValue_of_settle (ended : Bool) (value : String) (h : r.settle = .ok s)
    (hfile : s.file = none) :
    r.takeValue ended value = .ok { s with pending := some (.file value) } := by
  have hnone : r.hasFile = false := by rw [hasFile_of_settle h, hfile]; rfl
  unfold Reading.takeValue
  split
  case h_1 hpending =>
    unfold Reading.settle at h
    rw [hpending] at h
    cases h
  case h_2 =>
    rw [hnone, h]
    rfl

theorem settle_file {name : String} (h : name ≠ "") :
    { s with pending := some (.file name) }.settle =
      .ok { s with file := some name, pending := none } := by
  unfold Reading.settle
  dsimp only
  rw [if_neg h]

theorem IsPlain.ne_empty {word : String} (h : IsPlain word) : word ≠ "" := by
  rintro rfl
  obtain ⟨c, cs, hword, -⟩ := h
  cases hword

/-- The value of an option in the argument behind it. -/
theorem readArguments_detached {setting : Setting} {value : String} (h : r.settle = .ok s)
    (hvalue : IsPlain value) :
    ((r.takeSetting setting none).bind (readArguments false · (value :: rest))) =
      readArguments false { s with pending := some (.setting setting (some value)) } rest := by
  unfold Reading.takeSetting
  rw [h]
  show readArguments false _ (value :: rest) = _
  rw [readArguments_value hvalue]
  rfl

theorem takeSetting_attached {setting : Setting} {value : String} (h : r.settle = .ok s) :
    r.takeSetting setting (some value) = s.assign setting value := by
  unfold Reading.takeSetting
  rw [h]
  rfl

/-- What has been looked at is settled. -/
theorem settle_of_pending (h : r.pending = none) : r.settle = .ok r := by
  cases r
  cases h
  rfl

section

variable (o : Options) (parts : List Part)

theorem assign_maxTicks {n : Nat} {word : String} (hp : .maxTicks ∉ parts)
    (h : o.maxTicks = some n) (hn : Text.readNumber word = .ok n) :
    (o.known parts).assign .maxTicks word = .ok (o.known (.maxTicks :: parts)) := by
  have hnone : (o.known parts).maxTicks = none := if_neg hp
  unfold Reading.assign
  dsimp only
  rw [hnone, if_neg nofun, hn]
  simp [Options.known, h]

theorem assign_reportPath {path : String} (hp : .reportPath ∉ parts)
    (h : o.reportPath = some path) (hpath : path ≠ "") :
    (o.known parts).assign .reportPath path = .ok (o.known (.reportPath :: parts)) := by
  have hnone : (o.known parts).reportPath = none := if_neg hp
  unfold Reading.assign
  dsimp only
  rw [hnone, if_neg nofun, if_neg hpath]
  simp [Options.known, h]

end

/-- **The words for one more part** are read, and then that part is known as well. -/
theorem exists_read {part : Part} {words : List String} (h : r.settle = .ok (o.known parts))
    (hp : part ∉ parts) (hwords : o.Phrases part words) (rest : List String) :
    ∃ r', readArguments false r (words ++ rest) = readArguments false r' rest ∧
      r'.settle = .ok (o.known (part :: parts)) := by
  cases hwords with
  | file hplain =>
    have hfile : (o.known parts).file = none := if_neg hp
    refine ⟨{ o.known parts with pending := some (.file o.file) }, ?_, ?_⟩
    · rw [List.singleton_append, readArguments_value hplain, takeValue_of_settle false _ h hfile]
      rfl
    · rw [settle_file hplain.ne_empty]
      simp [Options.known]
  | debug =>
    have hdebug : (o.known parts).debug = false := decide_eq_false hp
    refine ⟨o.known (.debug :: parts), ?_, settle_of_pending rfl⟩
    rw [List.singleton_append, readArguments_debug, Reading.takeSwitch, h]
    show Except.bind (if (o.known parts).debug then _ else _) _ = _
    rw [hdebug]
    simp [Options.known, pure, Except.pure, Except.bind]
  | quiet =>
    have hquiet : (o.known parts).quiet = false := decide_eq_false hp
    refine ⟨o.known (.quiet :: parts), ?_, settle_of_pending rfl⟩
    rw [List.singleton_append, readArguments_quiet, Reading.takeSwitch, h]
    show Except.bind (if (o.known parts).quiet then _ else _) _ = _
    rw [hquiet]
    simp [Options.known, pure, Except.pure, Except.bind]
  | maxTicks hn hword hplain =>
    have hoption : Argument.ofString "--max-ticks" = .long "max-ticks" none := rfl
    have hassign := assign_maxTicks o parts hp hn hword
    refine ⟨{ o.known parts with pending := some (.setting .maxTicks (some _)) }, ?_, hassign⟩
    rw [List.cons_append, List.singleton_append, readArguments_maxTicks hoption]
    exact readArguments_detached h hplain
  | maxTicksAttached hn hword =>
    refine ⟨o.known (.maxTicks :: parts), ?_, settle_of_pending rfl⟩
    rw [List.singleton_append, readArguments_maxTicks (Argument.ofString_maxTicks _),
      takeSetting_attached h, assign_maxTicks o parts hp hn hword]
    rfl
  | reportPath hpath hplain =>
    have hoption : Argument.ofString "--report-json" = .long "report-json" none := rfl
    have hassign := assign_reportPath o parts hp hpath hplain.ne_empty
    refine ⟨{ o.known parts with pending := some (.setting .reportPath (some _)) }, ?_, hassign⟩
    rw [List.cons_append, List.singleton_append, readArguments_reportPath hoption]
    exact readArguments_detached h hplain
  | reportPathAttached hpath hne =>
    refine ⟨o.known (.reportPath :: parts), ?_, settle_of_pending rfl⟩
    rw [List.singleton_append, readArguments_reportPath (Argument.ofString_reportPath _),
      takeSetting_attached h, assign_reportPath o parts hp hpath hne]
    rfl

/-- **The words for some parts** are read, and then those parts are known. -/
theorem exists_read_flatten {pieces : List (List String)} (h : r.settle = .ok (o.known parts))
    {more : List Part} (hnodup : (more ++ parts).Nodup)
    (hwords : List.Forall₂ o.Phrases more pieces) :
    ∃ r', readArguments false r (pieces.flatten ++ rest) = readArguments false r' rest ∧
      r'.settle = .ok (o.known (more.reverse ++ parts)) := by
  induction hwords generalizing r parts with
  | nil => exact ⟨r, rfl, h⟩
  | @cons part piece more pieces hpart _ ih =>
    rw [List.cons_append, List.nodup_cons] at hnodup
    have hnew : part ∉ parts := fun hp => hnodup.1 (List.mem_append_right _ hp)
    obtain ⟨r', hread, hsettle⟩ := exists_read h hnew hpart (pieces.flatten ++ rest)
    have hrest : (more ++ part :: parts).Nodup := by
      rw [List.nodup_middle, List.nodup_cons]
      exact hnodup
    obtain ⟨r'', hread', hsettle'⟩ := ih hsettle hrest
    refine ⟨r'', ?_, ?_⟩
    · rw [List.flatten_cons, List.append_assoc, hread, hread']
    · rw [List.reverse_cons, List.append_assoc]
      exact hsettle'

/-- What is known in the end. -/
def Options.complete (o : Options) : Reading :=
  ⟨o.debug, o.quiet, o.maxTicks, o.reportPath, some o.file, none⟩

theorem known_eq (hall : ∀ p, p ≠ .file → (p ∈ parts ↔ o.has p)) :
    { o.known parts with file := some o.file } = o.complete := by
  have hdebug : decide (.debug ∈ parts) = o.debug := by
    rw [Bool.eq_iff_iff, decide_eq_true_iff]
    exact hall .debug nofun
  have hquiet : decide (.quiet ∈ parts) = o.quiet := by
    rw [Bool.eq_iff_iff, decide_eq_true_iff]
    exact hall .quiet nofun
  have hmaxTicks : (if .maxTicks ∈ parts then o.maxTicks else none) = o.maxTicks := by
    split
    · rfl
    · rename_i h
      exact (Option.not_isSome_iff_eq_none.1 (mt (hall .maxTicks nofun).2 h)).symm
  have hreportPath : (if .reportPath ∈ parts then o.reportPath else none) = o.reportPath := by
    split
    · rfl
    · rename_i h
      exact (Option.not_isSome_iff_eq_none.1 (mt (hall .reportPath nofun).2 h)).symm
  unfold Options.known Options.complete
  rw [hdebug, hquiet, hmaxTicks, hreportPath]

theorem finish_of_settle (h : r.settle = .ok o.complete) : r.finish = .ok (.run o) := by
  unfold Reading.finish
  rw [h]
  rfl

theorem readArguments_separator :
    readArguments false r ("--" :: rest) = readArguments true r rest := by
  have hword : Argument.ofString "--" = .separator := rfl
  rw [readArguments, hword]
  rfl

/-- **The standard tools find the options** in all words that spell them. -/
theorem Toolkit.readsArguments_standard : Toolkit.standard.ReadsArguments := by
  intro o words hspelled
  have hstart : Reading.settle {} = .ok (o.known []) := rfl
  suffices h : readArguments false {} words = .ok (.run o) by
    show optionsOf (readArguments false {} words) = _
    rw [h]
    rfl
  cases hspelled with
  | @anyOrder parts pieces last hnodup hall hwords hlast =>
    obtain ⟨r, hread, hsettle⟩ := exists_read_flatten hstart (by rwa [List.append_nil]) hwords
    have hcomplete : o.known (parts.reverse ++ []) = o.complete := by
      rw [← known_eq fun p _ => (by simpa using hall p)]
      simp [Options.known, (hall .file).2 rfl]
    rw [hcomplete] at hsettle
    rw [hread]
    rcases hlast with rfl | rfl
    · exact finish_of_settle hsettle
    · rw [readArguments_separator]
      exact finish_of_settle hsettle
  | @fileLast parts pieces hnodup hall hwords hfile =>
    obtain ⟨r, hread, hsettle⟩ := exists_read_flatten hstart (by rwa [List.append_nil]) hwords
    have hnone : (o.known (parts.reverse ++ [])).file = none := by
      simp [Options.known, hall .file]
    have hcomplete : { o.known (parts.reverse ++ []) with file := some o.file } = o.complete :=
      known_eq fun p hp => by simpa [hp] using hall p
    rw [hread, readArguments_separator, readArguments, takeValue_of_settle true _ hsettle hnone]
    refine finish_of_settle ?_
    rw [settle_file hfile, ← hcomplete]
    rfl

end CommandLine

end RuneGrid
