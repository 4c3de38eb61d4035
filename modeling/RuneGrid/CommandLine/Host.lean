import RuneGrid.CommandLine.Path

/-!
# The host of a command

What a command needs from the machine that it runs on: files, and two outputs for text.
-/

namespace RuneGrid

namespace CommandLine

/-- Why the host refuses to touch a file. -/
inductive FileError
  | notFound
  | alreadyExists
  | notADirectory
  | isADirectory
  | nameTooLong
  | other (message : String)
deriving DecidableEq

def FileError.message : FileError → String
  | notFound => "No such file or directory (os error 2)"
  | alreadyExists => "File exists (os error 17)"
  | notADirectory => "Not a directory (os error 20)"
  | isADirectory => "Is a directory (os error 21)"
  | nameTooLong => "File name too long (os error 36)"
  | other message => message

class Host (m : Type → Type) where
  readFile : String → m (Except FileError ByteArray)
  /-- Replaces the text of a file, or creates one. -/
  writeFile : String → String → m (Except FileError Unit)
  /-- Creates one directory in a directory that exists. -/
  makeDirectory : String → m (Except FileError Unit)
  isDirectory : String → m Bool
  /-- Writes to the output for results. -/
  print : String → m Unit
  /-- Writes to the output for complaints. -/
  complain : String → m Unit

variable {m : Type → Type} [Monad m] [Host m]

/-- Reads a file that has to be text. -/
def readText (path : String) : m (Except FileError String) := do
  match ← Host.readFile path with
  | .error e => return .error e
  | .ok bytes =>
    match String.fromUTF8? bytes with
    | some text => return .ok text
    | none => return .error (.other "stream did not contain valid UTF-8")

/-- Creates the first of the directories, and before it those above it that are missing. One that
exists already is as good as created. The empty path is where we are. -/
def makeDirectoriesAt : List Path → m (Except FileError Unit)
  | [] => return .error (.other "failed to create whole tree")
  | path :: above => do
    if path.text = "" then
      return .ok ()
    match ← Host.makeDirectory path.text with
    | .ok () => return .ok ()
    | .error .notFound =>
      match ← makeDirectoriesAt above with
      | .error e => return .error e
      | .ok () =>
        match ← Host.makeDirectory path.text with
        | .ok () => return .ok ()
        | .error e => orExisting path e
    | .error e => orExisting path e
where
  /-- The failure to create something is none if it is a directory. -/
  orExisting (path : Path) (e : FileError) : m (Except FileError Unit) := do
    if ← Host.isDirectory path.text then return .ok () else return .error e

/-- Creates a directory and those above it that are missing. -/
def makeDirectories (path : Path) : m (Except FileError Unit) :=
  makeDirectoriesAt path.ancestors

end CommandLine

end RuneGrid
