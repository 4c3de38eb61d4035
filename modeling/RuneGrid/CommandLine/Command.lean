import RuneGrid.CommandLine.Host
import RuneGrid.CommandLine.Toolkit
import RuneGrid.Report

/-!
# The command

Reads a source file, runs it and prints what it writes. On request there is a listing before the
run, a log of what happens and a report at the end.
-/

namespace RuneGrid

namespace CommandLine

/-- The rows and the positions of the pointers of a program before its run. -/
def listing (p : Program) : String :=
  let rows := ", ".intercalate (p.grid.render.map Text.quoted)
  let positions := ", ".intercalate (p.pointers.map fun q => s!"({q.pos.x}, {q.pos.y})")
  s!"GRID: [{rows}]\nPOSITIONS: [{positions}]\n"

/-- The warning that a program has no pointers. -/
def lifeless (file : String) : Log.Record :=
  ⟨.warn, .commandLine, s!"no start glyph in {file}; nothing will ever run", [], false⟩

/-- Where the log goes and what gets into it. -/
structure Logging where
  toOutput : Bool
  subscriber : Log.Subscriber

/-- With `--debug` the log is verbose and mixed with the output. Otherwise a setting of the
environment decides, one that is missing or makes no sense counts as a wish for warnings, and the
log goes where complaints go. -/
def Toolkit.logging (t : Toolkit) (o : Options) (setting : Option String) : Logging :=
  if o.debug then ⟨true, t.subscriber "runar=debug,runar_core=debug"⟩
  else ⟨false, (setting.bind t.subscriber?).getD (t.subscriber "runar=warn")⟩

/-- What is complained about a failure that ends a call: it is told twice. -/
def Toolkit.lament (t : Toolkit) (f : Failure) : String :=
  s!"{t.brief f}\nError: {t.full f}\n"

section

variable {m : Type → Type} [Monad m] [Host m]

def Logging.write (l : Logging) (r : Log.Record) : m Unit := do
  if let some line := l.subscriber.lineOf? r then
    if l.toOutput then Host.print line else Host.complain line

/-- Logs an event, and prints the glyph that a program has written. -/
def Logging.observe (l : Logging) (e : Event) : m Unit := do
  if let some r := Log.ofEvent? e then
    l.write r
  if let .emitted _ glyph := e then
    Host.print glyph.toString

/-- Carries on with what a file operation gave. -/
def orFailure {α : Type} (doing : String) (act : m (Except FileError α)) : ExceptT Failure m α := do
  match ← act with
  | .ok a => return a
  | .error e => throw ⟨doing, e.message⟩

/-- Creates the directory for a report, if it needs one. -/
def prepare (path : String) : ExceptT Failure m Unit := do
  if let some parent := (Path.ofString path).parent? then
    if parent.text ≠ "" then
      orFailure s!"create report dir: {parent.text}" (makeDirectories parent)

namespace Toolkit

variable (t : Toolkit)

/-- Writes a report, and creates the directory for it. -/
def writeReport (path : String) (r : Report) : ExceptT Failure m Unit := do
  match r.encode t.encode with
  | .error e => throw ⟨"encode run report", e⟩
  | .ok text =>
    prepare path
    orFailure s!"write report: {path}" (Host.writeFile path text)

/-- Writes the report if there is to be one. -/
def report (o : Options) (r : Report) : ExceptT Failure m Unit := do
  if let some path := o.reportPath then
    t.writeReport path r

/-- Does what the options ask for. A report that cannot be written hides how the run ended. -/
def perform (o : Options) (setting : Option String) : ExceptT Failure m Unit := do
  let log := t.logging o setting
  let source ← orFailure s!"read source: {o.file}" (readText o.file)
  match ← Program.loadWith (m := m) log.observe source with
  | .error e =>
    t.report o (.ofLoadError e)
    throw ⟨s!"load: {o.file}", e.description⟩
  | .ok program =>
    unless o.quiet do
      (Host.print (listing program) : m Unit)
    if program.pointers.isEmpty then
      (log.write (lifeless o.file) : m Unit)
    let start := Execution.ofProgram program Transcript.empty o.maxTicks
    match ← start.runWith (m := m) log.observe with
    | none => throw ⟨s!"run: {o.file}", "tick counter exhausted"⟩
    | some run =>
      t.report o (.ofRun run)
      if let .error e := run.result then
        throw ⟨s!"run: {o.file}", e.description⟩

/-- Runs the command with these arguments and this setting of the environment for the log. The
result is the exit code, which is 1 for a failure. -/
def run (setting : Option String) (arguments : List String) : m UInt32 := do
  match t.arguments arguments with
  | .error dismissal =>
    Host.print dismissal.output
    Host.complain dismissal.complaints
    return dismissal.code
  | .ok options =>
    match ← (t.perform options setting).run with
    | .ok () => return 0
    | .error failure =>
      Host.complain (t.lament failure)
      return 1

end Toolkit

/-- Runs the command with the standard tools. -/
def run (setting : Option String) (arguments : List String) : m UInt32 :=
  Toolkit.standard.run setting arguments

end

end CommandLine

end RuneGrid
