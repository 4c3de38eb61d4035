import RuneGrid.CommandLine.Help
import RuneGrid.CommandLine.Options
import RuneGrid.Log.Filter
import RuneGrid.Text.Json

/-!
# The tools of the command

The command leaves some work to general tools: to read its arguments, to word its failures, to pick
and lay out the lines of its log, and to write documents. It works with any tools (`Toolkit`), of
which one set is the standard one.
-/

namespace RuneGrid

namespace CommandLine

/-- Why a command failed: what it was doing, and what came in its way. -/
structure Failure where
  doing : String
  cause : String
deriving DecidableEq

/-- The failure on one line. -/
def Failure.brief (f : Failure) : String :=
  s!"{f.doing}: {f.cause}"

/-- The failure with a list of its causes. -/
def Failure.full (f : Failure) : String :=
  s!"{f.doing}\n\nCaused by:\n    {f.cause}"

/-- The end of a call that is over before anything is run: the exit code and what is put out. -/
structure Dismissal where
  code : UInt32
  output : String
  complaints : String

structure Toolkit where
  /-- The options that the arguments ask for, unless the call is over with them. -/
  arguments : List String → Except Dismissal Options
  /-- The subscriber with a filter as it is written, if all of that makes sense. -/
  subscriber? : String → Option Log.Subscriber
  /-- The subscriber with those parts of a filter that make sense. -/
  subscriber : String → Log.Subscriber
  /-- A failure on one line. -/
  brief : Failure → String
  /-- A failure with its causes. -/
  full : Failure → String
  /-- The text of a document, or why there is none. -/
  encode : Json → Except String String

/-- A call that makes no sense is over with exit code 2, one that asks for help is over without
a failure. -/
def optionsOf : Except UsageError Request → Except Dismissal Options
  | .ok (.run options) => .ok options
  | .ok .shortHelp => .error ⟨0, shortHelp, ""⟩
  | .ok .longHelp => .error ⟨0, longHelp, ""⟩
  | .error e => .error ⟨2, "", e.message ++ "\n"⟩

/-- The tools that the command is used with. -/
def Toolkit.standard : Toolkit where
  arguments words := optionsOf (Request.ofArguments words)
  subscriber? text := (Log.Filter.parse? text).map (·.subscriber)
  subscriber text := (Log.Filter.parseLossy text).subscriber
  brief := Failure.brief
  full := Failure.full
  encode j := .ok (j.pretty "")

end CommandLine

end RuneGrid
