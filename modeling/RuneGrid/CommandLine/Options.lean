import RuneGrid.Text.Number
import RuneGrid.Text.Unstyled

/-!
# The options of the command line

Options and the file come in any order. An option that takes a value takes the part after its equals
sign or else the next argument, unless that looks like an option itself. After `--` every argument
is a file. A value is looked at only when the next argument is, so of two mistakes it is not always
the first that is reported.
-/

namespace RuneGrid

namespace CommandLine

structure Options where
  file : String
  debug : Bool
  quiet : Bool
  maxTicks : Option Nat
  reportPath : Option String
deriving DecidableEq

inductive Request
  | run (options : Options)
  | shortHelp
  | longHelp
deriving DecidableEq

/-- What takes no value. -/
inductive Switch
  | debug
  | quiet
deriving DecidableEq

def Switch.usage : Switch → String
  | debug => "--debug"
  | quiet => "--quiet"

/-- What takes a value. -/
inductive Setting
  | maxTicks
  | reportPath
deriving DecidableEq

def Setting.usage : Setting → String
  | maxTicks => "--max-ticks <MAX_TICKS>"
  | reportPath => "--report-json <REPORT_JSON>"

inductive UsageError
  | unexpectedArgument (argument : String)
  | unexpectedValue (value option : String)
  | repeated (option : String)
  | missingValue (option : String)
  | invalidNumber (value option : String) (reason : Text.NumberError)
  | missingFile
deriving DecidableEq

/-- The message, in which what was given is quoted without terminal sequences. -/
def UsageError.message : UsageError → String
  | unexpectedArgument argument =>
    s!"error: unexpected argument '{Text.unstyled argument}' found"
  | unexpectedValue value option =>
    s!"error: unexpected value '{Text.unstyled value}' for '{option}' found; no more were expected"
  | repeated option => s!"error: the argument '{option}' cannot be used multiple times"
  | missingValue option => s!"error: a value is required for '{option}' but none was supplied"
  | invalidNumber value option reason =>
    s!"error: invalid value '{Text.unstyled value}' for '{option}': {reason.message}"
  | missingFile => "error: the following required arguments were not provided:"

/-! ## Arguments -/

/-- A value that has been given but not been looked at. -/
inductive Pending
  | file (name : String)
  | setting (setting : Setting) (value : Option String)
deriving DecidableEq

/-- What is known after some of the arguments. -/
structure Reading where
  debug : Bool := false
  quiet : Bool := false
  maxTicks : Option Nat := none
  reportPath : Option String := none
  file : Option String := none
  pending : Option Pending := none

namespace Reading

/-- Looks at a value for a setting. A setting is made once only. -/
def assign (r : Reading) (setting : Setting) (value : String) : Except UsageError Reading :=
  match setting with
  | .maxTicks =>
    if r.maxTicks.isSome then .error (.repeated setting.usage)
    else match Text.readNumber value with
      | .ok n => .ok { r with maxTicks := some n }
      | .error reason => .error (.invalidNumber value setting.usage reason)
  | .reportPath =>
    if r.reportPath.isSome then .error (.repeated setting.usage)
    else if value = "" then .error (.missingValue setting.usage)
    else .ok { r with reportPath := some value }

/-- Looks at the value that is pending. -/
def settle (r : Reading) : Except UsageError Reading :=
  let settled := { r with pending := none }
  match r.pending with
  | none => .ok settled
  | some (.file name) =>
    if name = "" then .error (.missingValue "<FILE>") else .ok { settled with file := some name }
  | some (.setting setting none) => .error (.missingValue setting.usage)
  | some (.setting setting (some value)) => settled.assign setting value

/-- Whether a file has been named, looked at or not. -/
def hasFile (r : Reading) : Bool :=
  match r.pending with
  | some (.file _) => true
  | _ => r.file.isSome

/-- An argument that is no option: the value of the option before it, or the file. -/
def takeValue (r : Reading) (ended : Bool) (value : String) : Except UsageError Reading :=
  match r.pending, ended with
  | some (.setting setting none), false =>
    .ok { r with pending := some (.setting setting (some value)) }
  | _, _ =>
    if r.hasFile then .error (.unexpectedArgument value)
    else do
      let settled ← r.settle
      return { settled with pending := some (.file value) }

def takeSetting (r : Reading) (setting : Setting) (attached : Option String) :
    Except UsageError Reading := do
  let settled ← r.settle
  match attached with
  | some value => settled.assign setting value
  | none => return { settled with pending := some (.setting setting none) }

/-- Throws a switch, which can be thrown once. -/
def takeSwitch (r : Reading) (switch : Switch) : Except UsageError Reading := do
  let settled ← r.settle
  match switch with
  | .debug =>
    if settled.debug then throw (.repeated switch.usage) else return { settled with debug := true }
  | .quiet =>
    if settled.quiet then throw (.repeated switch.usage) else return { settled with quiet := true }

/-- What the arguments come to at their end. -/
def finish (r : Reading) : Except UsageError Request := do
  let settled ← r.settle
  match settled.file with
  | none => throw .missingFile
  | some file =>
    return .run ⟨file, settled.debug, settled.quiet, settled.maxTicks, settled.reportPath⟩

end Reading

/-- The form of one argument. -/
inductive Argument
  /-- The argument that ends the options. -/
  | separator
  /-- An option with two dashes and the text behind its equals sign. -/
  | long (name : String) (attached : Option String)
  /-- The first letter behind a single dash. -/
  | short (letter : Char)
  | value (text : String)

def Argument.ofString (s : String) : Argument :=
  match s.toList with
  | ['-', '-'] => separator
  | '-' :: '-' :: rest =>
    let name := rest.takeWhile (· ≠ '=')
    match rest.drop name.length with
    | [] => long (String.ofList name) none
    | _ :: attached => long (String.ofList name) (some (String.ofList attached))
  | '-' :: letter :: _ => short letter
  | _ => value s

/-- What takes no value must not be given one. -/
def refuseValue (option : String) : Option String → Except UsageError Unit
  | some value => .error (.unexpectedValue value option)
  | none => .ok ()

/-- Reads the arguments one by one; `ended` says whether the options have ended. -/
def readArguments (ended : Bool) (r : Reading) : List String → Except UsageError Request
  | [] => r.finish
  | s :: rest => do
    if ended then
      readArguments true (← r.takeValue true s) rest
    else
      match Argument.ofString s with
      | .separator => readArguments true r rest
      | .value text => readArguments false (← r.takeValue false text) rest
      | .short 'h' =>
        let _ ← r.settle
        return .shortHelp
      | .short letter => throw (.unexpectedArgument s!"-{letter}")
      | .long "max-ticks" attached =>
        readArguments false (← r.takeSetting .maxTicks attached) rest
      | .long "report-json" attached =>
        readArguments false (← r.takeSetting .reportPath attached) rest
      | .long "debug" attached =>
        refuseValue Switch.debug.usage attached
        readArguments false (← r.takeSwitch .debug) rest
      | .long "quiet" attached =>
        refuseValue Switch.quiet.usage attached
        readArguments false (← r.takeSwitch .quiet) rest
      | .long "help" attached =>
        refuseValue "--help" attached
        let _ ← r.settle
        return .longHelp
      | .long name _ => throw (.unexpectedArgument s!"--{name}")

/-- What a list of arguments asks for. -/
def Request.ofArguments (arguments : List String) : Except UsageError Request :=
  readArguments false {} arguments

end CommandLine

end RuneGrid
