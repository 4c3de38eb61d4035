import Mathlib
import RuneGrid.Proofs.CommandLine.Arguments
import RuneGrid.Proofs.CommandLine.Listing
import RuneGrid.Proofs.CommandLine.Output
import RuneGrid.Proofs.Report
import RuneGrid.Proofs.Text.Json

/-!
# Flags do not change the run

A call reads its source, loads it, runs the program and reports (`perform_eq`).  Without `--debug`,
what it comes to (`Outcome`) is settled by the file and the limit: there is one outcome for a file
that is no text, one for a text that cannot be loaded and one for each way in which a program runs
(`Machine.exists_outcome`), and each of them fits the file (`Outcome.Fits`).  Of the flags,
`--quiet` takes away the listing and `--report-json` adds the report, and nothing else depends on
them (`flags_keep_run`).

The tools are any that read the arguments (`Toolkit.ReadsArguments`) and whose documents can be read
back (`Toolkit.Keeps`).  How they word failures and format the log does not matter.
-/

namespace RuneGrid

namespace CommandLine

/-! ### A call in four parts -/

section

variable {m : Type → Type} [Monad m] [Host m]

/-- Lists a program, unless that is not wanted. -/
def Options.list (o : Options) (program : Program) : m Unit :=
  unless o.quiet do
    Host.print (listing program)

/-- Warns that a program has no pointers, if it has none. -/
def Logging.warn (log : Logging) (file : String) (program : Program) : m Unit :=
  if program.pointers.isEmpty then log.write (lifeless file) else pure ()

/-- Announces a program and runs it. -/
def Options.execute (o : Options) (log : Logging) (program : Program) :
    m (Option (Run Transcript)) := do
  log.observe program.loadedEvent
  o.list program
  log.warn o.file program
  (Execution.ofProgram program Transcript.empty o.maxTicks).runWith log.observe

/-- Writes the report, if there is to be one, and ends. -/
def Toolkit.conclude (t : Toolkit) (o : Options) (report : Report)
    (ending : Except Failure Unit) : ExceptT Failure m Unit := do
  t.report o report
  ExceptT.mk (pure ending)

/-- How a call ends after a run. -/
def endingOf (file : String) (r : Run Transcript) : Except Failure Unit :=
  match r.result with
  | .error e => .error ⟨s!"run: {file}", e.description⟩
  | .ok _ => .ok ()

/-- What is left to do after a run. -/
def Toolkit.settle (t : Toolkit) (o : Options) (r : Run Transcript) : ExceptT Failure m Unit := do
  t.report o (.ofRun r)
  if let .error e := r.result then
    throw ⟨s!"run: {o.file}", e.description⟩

theorem settle_eq (t : Toolkit) (o : Options) (r : Run Transcript) :
    (t.settle o r : ExceptT Failure m Unit) = t.conclude o (.ofRun r) (endingOf o.file r) := by
  obtain ⟨final, result⟩ := r
  cases result with
  | ok _ => rfl
  | error _ => rfl

theorem perform_eq [LawfulMonad m] (t : Toolkit) (o : Options) (setting : Option String) :
    (t.perform o setting : ExceptT Failure m Unit) = (do
      let source ← orFailure s!"read source: {o.file}" (readText o.file)
      match Program.load source with
      | .error e => t.conclude o (.ofLoadError e) (.error ⟨s!"load: {o.file}", e.description⟩)
      | .ok program =>
        match ← (o.execute (t.logging o setting) program : m _) with
        | none => throw ⟨s!"run: {o.file}", "tick counter exhausted"⟩
        | some r => t.conclude o (.ofRun r) (endingOf o.file r)) := by
  simp only [← settle_eq]
  unfold Toolkit.perform Options.execute Options.list Logging.warn Program.loadWith
  refine bind_congr fun source => ?_
  cases Program.load source with
  | error e =>
    simp only [liftM_pure, pure_bind]
    rfl
  | ok program =>
    simp only [liftM_bind, liftM_pure, pure_bind, bind_assoc]
    cases o.quiet <;> cases program.pointers.isEmpty <;>
      simp only [Bool.false_eq_true, ↓reduceIte, liftM_pure, pure_bind] <;>
      rfl

end

/-! ### Outcomes -/

variable {bytes : ByteArray} {source file : String} {program : Program} {e : LoadError}
  {limit : Option Nat} {us : List (Execution Transcript)} {r : Run Transcript}

/-- What gets into the log of the run of a program in which these events are seen. -/
def logOf (subscriber : Log.Subscriber) (file : String) (program : Program) (events : List Event) :
    String :=
  lineOfEvent subscriber program.loadedEvent ++
    ((if program.pointers.isEmpty then lineOf subscriber (lifeless file) else "") ++
      linesOf subscriber events)

/-- What a call comes to, whatever flags it has: how it ends, what the program writes, with the
listing before it, what is complained about before the end, and what is reported. -/
structure Outcome where
  ending : Except Failure Unit
  heading : String
  output : String
  complaints : String
  report : Option Report

namespace Outcome

/-- The file is not text. -/
def noText (file : String) : Outcome where
  ending := .error ⟨s!"read source: {file}", "stream did not contain valid UTF-8"⟩
  heading := ""
  output := ""
  complaints := ""
  report := none

/-- The text cannot be loaded. -/
def noProgram (file : String) (e : LoadError) : Outcome where
  ending := .error ⟨s!"load: {file}", e.description⟩
  heading := ""
  output := ""
  complaints := ""
  report := some (.ofLoadError e)

/-- The program ticks in the states `us` and ends as `r`. -/
def ran (subscriber : Log.Subscriber) (file : String) (limit : Option Nat) (program : Program)
    (us : List (Execution Transcript)) (r : Run Transcript) : Outcome where
  ending := endingOf file r
  heading := listing program
  output := r.final.transcript
  complaints := logOf subscriber file program
    ((Execution.ofProgram program Transcript.empty limit).seen us r)
  report := some (.ofRun r)

end Outcome

/-! ### Outcomes fit the file -/

/-- The exit code of a call that ends so. -/
def codeOf : Except Failure Unit → UInt32
  | .ok _ => 0
  | .error _ => 1

/-- The bytes are the source of a program. -/
def Holds (bytes : ByteArray) (program : Program) : Prop :=
  ∃ source, String.fromUTF8? bytes = some source ∧ Program.load source = .ok program

theorem holds_iff (hsource : String.fromUTF8? bytes = some source) :
    Holds bytes program ↔ Program.load source = .ok program := by
  unfold Holds
  rw [hsource]
  constructor
  · rintro ⟨source', ⟨⟩, hload⟩
    exact hload
  · intro hload
    exact ⟨source, rfl, hload⟩

namespace Outcome

/-- The outcome fits the file that is run. -/
structure Fits (c : Outcome) (bytes : ByteArray) (limit : Option Nat) : Prop where
  heading : ∀ program, Holds bytes program → c.heading = listing program
  unloaded : (∀ program, ¬ Holds bytes program) → c.heading = "" ∧ c.output = ""
  code_iff : codeOf c.ending = 0 ↔ ∃ program r n, Holds bytes program ∧
    (Execution.ofProgram program Transcript.empty limit).run? = some r ∧ r.result = .ok n ∧
    r.final.halted = true
  report : ∀ source, String.fromUTF8? bytes = some source → ∃ report, c.report = some report ∧
    Report.ofSource source limit = some report ∧ (report.ok = true ↔ codeOf c.ending = 0) ∧
    report.output = c.output

/-- Without a program there is nothing to put out, and the exit code is not 0. -/
theorem Fits.of_unloaded {c : Outcome} (hholds : ∀ program, ¬ Holds bytes program)
    (hheading : c.heading = "") (houtput : c.output = "") (hcode : codeOf c.ending ≠ 0)
    (hreport : ∀ source, String.fromUTF8? bytes = some source → ∃ report, c.report = some report ∧
      Report.ofSource source limit = some report ∧ report.ok = false ∧ report.output = "") :
    c.Fits bytes limit where
  heading program h := absurd h (hholds program)
  unloaded _ := ⟨hheading, houtput⟩
  code_iff := iff_of_false hcode fun ⟨program, _, _, h, _⟩ => hholds program h
  report source hsource := by
    obtain ⟨report, hreported, hof, hok, hnone⟩ := hreport source hsource
    refine ⟨report, hreported, hof, iff_of_false ?_ hcode, hnone.trans houtput.symm⟩
    rw [hok]
    exact nofun

theorem fits_noText (file : String) (hsource : String.fromUTF8? bytes = none) :
    (noText file).Fits bytes limit := by
  refine .of_unloaded ?_ rfl rfl nofun ?_
  · rintro program ⟨source, hsome, -⟩
    rw [hsource] at hsome
    cases hsome
  · intro source hsome
    rw [hsource] at hsome
    cases hsome

theorem fits_noProgram (file : String) (hsource : String.fromUTF8? bytes = some source)
    (hload : Program.load source = .error e) : (noProgram file e).Fits bytes limit := by
  refine .of_unloaded ?_ rfl rfl nofun ?_
  · intro program
    rw [holds_iff hsource, hload]
    exact nofun
  · intro source' hsome
    rw [hsource] at hsome
    cases hsome
    refine ⟨_, rfl, ?_, rfl, rfl⟩
    unfold Report.ofSource
    rw [hload]

theorem codeOf_endingOf_eq_zero_iff (file : String) (r : Run Transcript) :
    codeOf (endingOf file r) = 0 ↔ ∃ n, r.result = .ok n := by
  unfold endingOf
  cases r.result with
  | ok n => exact iff_of_true rfl ⟨n, rfl⟩
  | error e => exact iff_of_false nofun nofun

theorem ok_ofRun_iff (r : Run Transcript) : (Report.ofRun r).ok = true ↔ ∃ n, r.result = .ok n := by
  unfold Report.ofRun
  cases r.result with
  | ok n => exact iff_of_true rfl ⟨n, rfl⟩
  | error e => exact iff_of_false nofun nofun

theorem fits_ran (subscriber : Log.Subscriber) (file : String)
    (hsource : String.fromUTF8? bytes = some source) (hload : Program.load source = .ok program)
    (hr : (Execution.ofProgram program Transcript.empty limit).run? = some r)
    (h : (Execution.ofProgram program Transcript.empty limit).Runs us r) :
    (ran subscriber file limit program us r).Fits bytes limit := by
  have hholds : ∀ program', Holds bytes program' ↔ program' = program := by
    intro program'
    rw [holds_iff hsource, hload, Except.ok.injEq]
    exact eq_comm
  constructor
  case heading =>
    intro program' hprogram
    rw [(hholds program').1 hprogram]
    rfl
  case unloaded =>
    intro hnone
    exact absurd ((hholds program).2 rfl) (hnone program)
  case code_iff =>
    refine (codeOf_endingOf_eq_zero_iff file r).trans ⟨?_, ?_⟩
    · rintro ⟨n, hn⟩
      exact ⟨program, r, n, (hholds program).2 rfl, hr, hn, (h.done_of_ok hn).1⟩
    · rintro ⟨program', r', n, hprogram, hr', hn, -⟩
      obtain rfl := (hholds program').1 hprogram
      rw [hr] at hr'
      cases hr'
      exact ⟨n, hn⟩
  case report =>
    intro source' hsome
    rw [hsource] at hsome
    cases hsome
    refine ⟨_, rfl, ?_, (ok_ofRun_iff r).trans (codeOf_endingOf_eq_zero_iff file r).symm, rfl⟩
    unfold Report.ofSource
    rw [hload]
    dsimp only
    rw [hr]
    rfl

end Outcome

/-! ### What a call comes to -/

/-- What is complained about at the end. -/
def Toolkit.lastWords (t : Toolkit) : Except Failure Unit → String
  | .ok _ => ""
  | .error failure => t.lament failure

/-- What writes the log when it is not verbose. -/
def Toolkit.listener (t : Toolkit) (setting : Option String) : Log.Subscriber :=
  (setting.bind t.subscriber?).getD (t.subscriber "runar=warn")

namespace Machine

variable {k k' : Machine} {t : Toolkit} {o : Options} {setting : Option String} {text : String}

theorem says_list (o : Options) (program : Program) :
    Says (o.list program) () (if o.quiet then "" else listing program) "" := by
  unfold Options.list
  cases o.quiet with
  | true => exact .pure ()
  | false => exact .print _

theorem says_warn (subscriber : Log.Subscriber) (file : String) (program : Program) :
    Says (Logging.warn ⟨false, subscriber⟩ file program) () ""
      (if program.pointers.isEmpty then lineOf subscriber (lifeless file) else "") := by
  unfold Logging.warn
  cases program.pointers.isEmpty with
  | true => exact says_write subscriber _
  | false => exact .pure ()

/-- The listing comes first, unless it is not wanted, and then what the program writes. -/
theorem says_execute (subscriber : Log.Subscriber) (o : Options)
    (hr : (Execution.ofProgram program Transcript.empty o.maxTicks).run? = some r)
    (h : (Execution.ofProgram program Transcript.empty o.maxTicks).Runs us r) :
    Says (o.execute ⟨false, subscriber⟩ program) (some r)
      ((if o.quiet then "" else listing program) ++ r.final.transcript)
      (logOf subscriber o.file program
        ((Execution.ofProgram program Transcript.empty o.maxTicks).seen us r)) := by
  have hrun := says_runWith subscriber hr h
  rw [ofList_glyphsOf_seen h] at hrun
  have hrest := (says_list o program).seq ((says_warn subscriber o.file program).seq hrun)
  rw [String.empty_append, String.empty_append] at hrest
  have hall := (says_observe subscriber program.loadedEvent).seq hrest
  -- the event of a load writes no glyph
  change Says _ _ ("" ++ _) _ at hall
  rw [String.empty_append] at hall
  exact hall

theorem after_source (h : k.read file = .ok bytes) (doing : String) :
    k.after (orFailure doing (readText file)).run = (match String.fromUTF8? bytes with
      | some source => .ok source
      | none => .error ⟨doing, "stream did not contain valid UTF-8"⟩, k) := by
  have hread : k.after (Host.readFile file) = (k.read file, k) := rfl
  rw [run_orFailure, readText, after_bind, after_bind, hread, h]
  dsimp only
  cases String.fromUTF8? bytes <;> rfl

/-- A report that can be written is written, if there is to be one. -/
theorem after_report (h : ∀ path, o.reportPath = some path → k.CanWrite path)
    (hk : SameTree k k') {report : Report} (htext : report.encode t.encode = .ok text) :
    ∃ next, k'.after (t.report o report).run = (.ok (), next) ∧ next.output = k'.output ∧
      next.complaints = k'.complaints ∧
      ∀ path, o.reportPath = some path → next.read path = .ok text.toUTF8 := by
  unfold Toolkit.report
  cases hpath : o.reportPath with
  | none => exact ⟨k', rfl, rfl, rfl, nofun⟩
  | some path =>
    obtain ⟨next, hafter, houtput, hcomplaints, hread⟩ := (h path hpath).writeReport hk htext
    refine ⟨next, hafter, houtput, hcomplaints, ?_⟩
    rintro path' ⟨⟩
    exact hread

/-- If the report can be written, then it is, and the call ends. -/
theorem after_conclude (h : ∀ path, o.reportPath = some path → k.CanWrite path)
    (hk : SameTree k k') {report : Report} (htext : report.encode t.encode = .ok text)
    (ending : Except Failure Unit) :
    ∃ next, k'.after (t.conclude o report ending).run = (ending, next) ∧
      next.output = k'.output ∧ next.complaints = k'.complaints ∧
      ∀ path, o.reportPath = some path → next.read path = .ok text.toUTF8 := by
  obtain ⟨next, hafter, hkeeps⟩ := after_report h hk htext
  refine ⟨next, ?_, hkeeps⟩
  unfold Toolkit.conclude
  rw [ExceptT.run_bind, after_bind, hafter]
  rfl

/-- Performing the options comes to this. -/
def ComesTo (k : Machine) (t : Toolkit) (o : Options) (setting : Option String) (c : Outcome) :
    Prop :=
  ∃ next, k.after (t.perform o setting).run = (c.ending, next) ∧
    next.output = k.output ++ ((if o.quiet then "" else c.heading) ++ c.output) ∧
    next.complaints = k.complaints ++ c.complaints ∧
    ∀ path report text, o.reportPath = some path → c.report = some report →
      report.encode t.encode = .ok text → next.read path = .ok text.toUTF8

variable {setting : Option String} {source : String} {e : LoadError} {limit : Option Nat}

theorem comesTo_noText (hread : k.read o.file = .ok bytes)
    (hsource : String.fromUTF8? bytes = none) : k.ComesTo t o setting (.noText o.file) := by
  refine ⟨k, ?_, ?_, ?_, ?_⟩
  · rw [perform_eq, ExceptT.run_bind, after_bind, after_source hread, hsource]
    rfl
  · simp [Outcome.noText]
  · simp [Outcome.noText]
  · intro path report text _ hreport
    cases hreport

theorem comesTo_noProgram (hread : k.read o.file = .ok bytes)
    (hsource : String.fromUTF8? bytes = some source) (hload : Program.load source = .error e)
    (hreport : ∀ path, o.reportPath = some path → k.CanWrite path)
    (htext : (Report.ofLoadError e).encode t.encode = .ok text) :
    k.ComesTo t o setting (.noProgram o.file e) := by
  obtain ⟨next, hafter, houtput, hcomplaints, hwritten⟩ :=
    after_conclude hreport (.refl k) htext (.error ⟨s!"load: {o.file}", e.description⟩)
  refine ⟨next, ?_, ?_, ?_, ?_⟩
  · rw [perform_eq, ExceptT.run_bind, after_bind, after_source hread, hsource]
    dsimp only
    rw [hload]
    exact hafter
  · simpa [Outcome.noProgram] using houtput
  · simpa [Outcome.noProgram] using hcomplaints
  · rintro path report text' hpath ⟨⟩ htext'
    obtain rfl := Except.ok.inj (htext.symm.trans htext')
    exact hwritten path hpath

theorem comesTo_ran (hread : k.read o.file = .ok bytes)
    (hsource : String.fromUTF8? bytes = some source) (hload : Program.load source = .ok program)
    (hr : (Execution.ofProgram program Transcript.empty o.maxTicks).run? = some r)
    (h : (Execution.ofProgram program Transcript.empty o.maxTicks).Runs us r)
    (hdebug : o.debug = false) (hreport : ∀ path, o.reportPath = some path → k.CanWrite path)
    (htext : (Report.ofRun r).encode t.encode = .ok text) :
    k.ComesTo t o setting (.ran (t.listener setting) o.file o.maxTicks program us r) := by
  have hlogging : t.logging o setting = ⟨false, t.listener setting⟩ := by
    unfold Toolkit.logging
    rw [hdebug]
    rfl
  have hsays := says_execute (t.listener setting) o hr h k
  obtain ⟨next, hafter, houtput, hcomplaints, hwritten⟩ :=
    after_conclude hreport (sameTree_say k _ _) htext (endingOf o.file r)
  refine ⟨next, ?_, houtput, hcomplaints, ?_⟩
  · rw [perform_eq, ExceptT.run_bind, after_bind, after_source hread, hsource]
    dsimp only
    rw [hload]
    dsimp only
    show k.after (ExceptT.lift (o.execute _ program) >>= _).run = _
    rw [ExceptT.run_bind_lift, after_bind, hlogging, hsays]
    exact hafter
  · rintro path report text' hpath ⟨⟩ htext'
    obtain rfl := Except.ok.inj (htext.symm.trans htext')
    exact hwritten path hpath

/-- The end of a call complains about a failure and does nothing else. -/
theorem after_run {arguments : List String} {ending : Except Failure Unit}
    (harguments : t.arguments arguments = .ok o)
    (h : k.after (t.perform o setting).run = (ending, k')) :
    k.after (t.run setting arguments) = (codeOf ending, k'.say "" (t.lastWords ending)) := by
  unfold Toolkit.run
  rw [harguments]
  dsimp only
  rw [after_bind, h]
  cases ending with
  | ok _ => exact Says.pure (0 : UInt32) k'
  | error failure =>
    have hsays := (Says.complain (t.lament failure)).seq (.pure (1 : UInt32))
    rw [String.append_empty, String.append_empty] at hsays
    exact hsays k'

/-- The arguments spell the options of a run of a file that can be read, without a verbose log, and
the report can be written: its path names a regular file, or none yet. -/
structure IsCall (k : Machine) (file : String) (bytes : ByteArray) (limit : Option Nat)
    (arguments : List String) (o : Options) : Prop where
  options : o.Spelled arguments
  path : o.file = file
  read : k.read file = .ok bytes
  maxTicks : o.maxTicks = limit
  debug : o.debug = false
  report : ∀ path, o.reportPath = some path → k.CanWrite path

/-- All calls that run a file come to the same. -/
theorem exists_outcome (t : Toolkit) (setting : Option String) (file : String) (bytes : ByteArray)
    (hencodes : ∀ source report, String.fromUTF8? bytes = some source →
      Report.ofSource source limit = some report → ∃ text, report.encode t.encode = .ok text)
    (hends : ∀ program, Holds bytes program →
      (Execution.ofProgram program Transcript.empty limit).run?.isSome) :
    ∃ c : Outcome, c.Fits bytes limit ∧ ∀ (k : Machine) (arguments : List String) (o : Options),
      k.IsCall file bytes limit arguments o → k.ComesTo t o setting c := by
  cases hsource : String.fromUTF8? bytes with
  | none =>
    refine ⟨_, Outcome.fits_noText file hsource, ?_⟩
    rintro k arguments o ⟨-, rfl, hread, -, -, -⟩
    exact comesTo_noText hread hsource
  | some source =>
    cases hload : Program.load source with
    | error e =>
      have hfits : (Outcome.noProgram file e).Fits bytes limit :=
        Outcome.fits_noProgram file hsource hload
      obtain ⟨report, ⟨⟩, hof, -, -⟩ := hfits.report source hsource
      obtain ⟨text, htext⟩ := hencodes source _ hsource hof
      refine ⟨_, hfits, ?_⟩
      rintro k arguments o ⟨-, rfl, hread, -, -, hreport⟩
      exact comesTo_noProgram hread hsource hload hreport htext
    | ok program =>
      obtain ⟨r, hr⟩ := Option.isSome_iff_exists.1 (hends program ⟨source, hsource, hload⟩)
      obtain ⟨us, hus⟩ := Execution.exists_runs hr
      have hfits := Outcome.fits_ran (t.listener setting) file hsource hload hr hus
      obtain ⟨report, ⟨⟩, hof, -, -⟩ := hfits.report source hsource
      obtain ⟨text, htext⟩ := hencodes source _ hsource hof
      refine ⟨_, hfits, ?_⟩
      rintro k arguments o ⟨-, rfl, hread, rfl, hdebug, hreport⟩
      exact comesTo_ran hread hsource hload hr hus hdebug hreport htext

end Machine

/-! ### What a report says -/

/-- The encoder has a text for the report, and what is read of that text as a line keeps the report.
-/
def Toolkit.Keeps (t : Toolkit) (decode : String → Option Json) (report : Report) : Prop :=
  ∃ text doc, t.encode (Json.ofReport report) = .ok text ∧ decode (text ++ "\n") = some doc ∧
    (Json.ofReport report).Keeps doc

/-- Whoever reads the document finds in it how the run ended and what has been put out. -/
theorem Toolkit.Keeps.exists_text {t : Toolkit} {decode : String → Option Json} {report : Report}
    (h : t.Keeps decode report) : ∃ text doc, report.encode t.encode = .ok text ∧
      decode text = some doc ∧ doc.member? "ok" = some (.bool report.ok) ∧
      doc.member? "output" = some (.str report.output) := by
  obtain ⟨text, doc, hencode, hdecode, hkeeps⟩ := h
  refine ⟨text ++ "\n", doc, ?_, hdecode, (hkeeps "ok").1 _ rfl, (hkeeps "output").2 _ rfl⟩
  unfold Report.encode
  rw [hencode]
  rfl

/-- The standard tools write the text of a report. -/
theorem Toolkit.encode_standard (report : Report) :
    report.encode Toolkit.standard.encode = .ok report.text := rfl

/-- Documents of the standard tools read back as they are. -/
theorem Toolkit.keeps_standard (report : Report) : Toolkit.standard.Keeps Json.read? report :=
  ⟨_, _, rfl, Json.read?_document _, fun _ => ⟨fun _ h => h, fun _ h => h⟩⟩

/-! ### Calls -/

/-- **Flags do not change the run.**  The tools are any that read the arguments and keep the
reports.  All calls that run a file under a limit have the same exit code and complaints, and put
out the same after the heading, which `--quiet` leaves out.  The report is that of the source, and
the document in its file tells whether the exit code is 0 and what is put out. -/
theorem flags_keep_run (t : Toolkit) (decode : String → Option Json) (setting : Option String)
    (file : String) (bytes : ByteArray) (limit : Option Nat) (hreads : t.ReadsArguments)
    (hkeeps : ∀ source report, Report.ofSource source limit = some report → t.Keeps decode report)
    (hends : ∀ program, Holds bytes program →
      (Execution.ofProgram program Transcript.empty limit).run?.isSome) :
    ∃ (code : UInt32) (heading output complaints : String),
      (∀ (k : Machine) (arguments : List String) (o : Options),
        k.IsCall file bytes limit arguments o →
        ∃ next, k.after (t.run setting arguments) = (code, next) ∧
          next.complaints = k.complaints ++ complaints ∧
          next.output = k.output ++ ((if o.quiet then "" else heading) ++ output) ∧
          ∀ path source, o.reportPath = some path → String.fromUTF8? bytes = some source →
            ∃ report text doc, Report.ofSource source limit = some report ∧
              (report.ok = true ↔ code = 0) ∧ report.output = output ∧
              report.encode t.encode = .ok text ∧ next.read path = .ok text.toUTF8 ∧
              decode text = some doc ∧ doc.member? "ok" = some (.bool (decide (code = 0))) ∧
              doc.member? "output" = some (.str output)) ∧
      (∀ program, Holds bytes program → ∃ rows positions,
        heading = "GRID: [" ++ rows ++ "]\nPOSITIONS: [" ++ positions ++ "]\n" ∧
          Text.OneLine rows ∧ Text.OneLine positions) ∧
      ((∀ program, ¬ Holds bytes program) → heading = "" ∧ output = "") ∧
      (code = 0 ↔ ∃ program r n, Holds bytes program ∧
        (Execution.ofProgram program Transcript.empty limit).run? = some r ∧ r.result = .ok n ∧
        r.final.halted = true) := by
  have hencodes : ∀ source report, String.fromUTF8? bytes = some source →
      Report.ofSource source limit = some report → ∃ text, report.encode t.encode = .ok text := by
    intro source report _ hof
    obtain ⟨text, -, hencode, -⟩ := (hkeeps source report hof).exists_text
    exact ⟨text, hencode⟩
  obtain ⟨c, hfits, hcomes⟩ := Machine.exists_outcome t setting file bytes hencodes hends
  refine ⟨codeOf c.ending, c.heading, c.output, c.complaints ++ t.lastWords c.ending,
    fun k arguments o h => ?_, fun program h => ?_, hfits.unloaded, hfits.code_iff⟩
  · obtain ⟨next, hafter, houtput, hcomplaints, hwritten⟩ := hcomes k arguments o h
    refine ⟨_, Machine.after_run (hreads o arguments h.options) hafter, ?_, ?_,
      fun path source hpath hsource => ?_⟩
    · show next.complaints ++ _ = _
      rw [hcomplaints, String.append_assoc]
    · show next.output ++ "" = _
      rw [String.append_empty, houtput]
    · obtain ⟨report, hreport, hof, hok, hsame⟩ := hfits.report source hsource
      obtain ⟨text, doc, hencode, hdecode, hmember, hmember'⟩ :=
        (hkeeps source report hof).exists_text
      have hcode : report.ok = decide (codeOf c.ending = 0) := by
        rw [Bool.eq_iff_iff, decide_eq_true_iff]
        exact hok
      rw [hcode] at hmember
      rw [hsame] at hmember'
      rw [Machine.read_say]
      exact ⟨report, text, doc, hof, hok, hsame, hencode,
        hwritten path report text hpath hreport hencode, hdecode, hmember, hmember'⟩
  · rw [hfits.heading program h]
    exact listing_eq program

/-! ### A machine with one program -/

/-- There is a program on this machine, which writes a single glyph. -/
def desk : Machine :=
  Machine.empty.put ["work", "one"] (.file "ᛌ1ᚭᛧ".toUTF8)

/-- The arguments of a call with or without these flags.  There is no directory yet for the
report. -/
def argumentsOf (quiet report : Bool) : List String :=
  (if quiet then ["--quiet"] else []) ++ (if report then ["--report-json", "d/r"] else []) ++
    ["one"]

/-- The options that they spell. -/
def flagsOf (quiet report : Bool) : Options :=
  ⟨"one", false, quiet, none, if report then some "d/r" else none⟩

theorem spelled_argumentsOf (quiet report : Bool) :
    (flagsOf quiet report).Spelled (argumentsOf quiet report) := by
  have hone : IsPlain "one" := ⟨'o', ['n', 'e'], rfl, by decide⟩
  have hreport : IsPlain "d/r" := ⟨'d', ['/', 'r'], rfl, by decide⟩
  have hfile : List.Forall₂ (flagsOf quiet report).Phrases [.file] [["one"]] :=
    .cons (.file hone) .nil
  cases quiet with
  | false =>
    cases report with
    | false => exact .anyOrder (by decide) (by rintro (_ | _) <;> decide) hfile (.inl rfl)
    | true =>
      exact .anyOrder (by decide) (by rintro (_ | _) <;> decide)
        (.cons (.reportPath rfl hreport) hfile) (.inl rfl)
  | true =>
    cases report with
    | false =>
      exact .anyOrder (by decide) (by rintro (_ | _) <;> decide) (.cons .quiet hfile) (.inl rfl)
    | true =>
      exact .anyOrder (by decide) (by rintro (_ | _) <;> decide)
        (.cons .quiet (.cons (.reportPath rfl hreport) hfile)) (.inl rfl)

theorem isCall_desk (quiet report : Bool) : desk.IsCall "one" "ᛌ1ᚭᛧ".toUTF8 none
    (argumentsOf quiet report) (flagsOf quiet report) where
  options := spelled_argumentsOf quiet report
  path := rfl
  read := by cbv
  maxTicks := rfl
  debug := rfl
  report := by
    have hready : desk.after (prepare "d/r").run = (.ok (), desk.put ["work", "d"] .directory) := by
      cbv
    have hfile : (desk.put ["work", "d"] .directory).NamesFile "d/r" :=
      ⟨["work", "d", "r"], by cbv, by decide +kernel, .inl (by decide +kernel)⟩
    intro path hsome
    cases report with
    | true =>
      cases hsome
      exact ⟨_, hready, hfile⟩
    | false => cases hsome

/-- The program on that machine. -/
def note : Program :=
  .ofGrid ⟨[['ᛌ', '1', 'ᚭ', 'ᛧ']], by decide⟩

theorem fromUTF8?_note : String.fromUTF8? "ᛌ1ᚭᛧ".toUTF8 = some "ᛌ1ᚭᛧ" := by
  decide +kernel

theorem load_note : Program.load "ᛌ1ᚭᛧ" = .ok note := rfl

theorem eq_note_of_holds {program : Program} (h : Holds "ᛌ1ᚭᛧ".toUTF8 program) :
    program = note := by
  rw [holds_iff fromUTF8?_note, load_note] at h
  exact (Except.ok.inj h).symm

/-- With or without `--quiet` and `--report-json`. -/
theorem desk_calls_agree : ∃ heading complaints : String, ∀ quiet report : Bool,
    ∃ next, desk.after (CommandLine.run none (argumentsOf quiet report)) = (0, next) ∧
      next.complaints = complaints ∧ next.output = (if quiet then "" else heading) ++ "ᚢ" ∧
      (report = true → ∃ report doc, Report.ofSource "ᛌ1ᚭᛧ" none = some report ∧
        next.read "d/r" = .ok report.text.toUTF8 ∧ Json.read? report.text = some doc ∧
        doc.member? "ok" = some (.bool true) ∧ doc.member? "output" = some (.str "ᚢ")) := by
  have hends : ∀ program, Holds "ᛌ1ᚭᛧ".toUTF8 program →
      (Execution.ofProgram program Transcript.empty none).run?.isSome := by
    intro program hprogram
    rw [eq_note_of_holds hprogram]
    rfl
  obtain ⟨code, heading, output, complaints, hcalls, -, -, hcode⟩ :=
    flags_keep_run Toolkit.standard Json.read? none "one" _ none Toolkit.readsArguments_standard
      (fun _ report _ => Toolkit.keeps_standard report) hends
  have hrun : (Execution.ofProgram note Transcript.empty none).run? = some _ := rfl
  have hreported : Report.ofSource "ᛌ1ᚭᛧ" none = some _ := rfl
  have hzero : code = 0 :=
    hcode.2 ⟨note, _, 4, ⟨_, fromUTF8?_note, load_note⟩, hrun, rfl, rfl⟩
  have houtput : output = "ᚢ" := by
    obtain ⟨next, -, -, -, hreport⟩ := hcalls desk _ _ (isCall_desk false true)
    obtain ⟨report, -, -, hreport, -, hsame, -⟩ := hreport "d/r" _ rfl fromUTF8?_note
    obtain rfl := Option.some.inj (hreported.symm.trans hreport)
    exact hsame.symm
  subst hzero houtput
  refine ⟨heading, complaints, fun quiet report => ?_⟩
  obtain ⟨next, hafter, hcomplaints, houtput, hreport⟩ := hcalls desk _ _ (isCall_desk quiet report)
  refine ⟨next, hafter, ?_, ?_, ?_⟩
  · rw [hcomplaints]
    exact String.empty_append
  · rw [houtput]
    exact String.empty_append
  · rintro rfl
    obtain ⟨report, text, doc, hof, -, -, hencode, hread, hdecode, hmember, hmember'⟩ :=
      hreport "d/r" _ rfl fromUTF8?_note
    obtain rfl : report.text = text :=
      Except.ok.inj ((Toolkit.encode_standard report).symm.trans hencode)
    exact ⟨report, doc, hof, hread, hdecode, hmember, hmember'⟩

end CommandLine

end RuneGrid
