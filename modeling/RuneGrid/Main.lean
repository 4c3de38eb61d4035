import RuneGrid.CommandLine.Command

/-!
# The program

The command on the machine that it runs on.
-/

namespace RuneGrid

namespace CommandLine

/-- What the machine's refusal means to the command. -/
def fileError : IO.Error → FileError
  | .noFileOrDirectory .. => .notFound
  | .alreadyExists .. => .alreadyExists
  | .invalidArgument _ 36 _ => .nameTooLong
  | .inappropriateType _ code _ => if code = 20 then .notADirectory else .isADirectory
  | e => .other (toString e)

/-- Tries a file operation. -/
def attempt {α : Type} (act : IO α) : IO (Except FileError α) := do
  try
    return .ok (← act)
  catch e =>
    return .error (fileError e)

instance : Host IO where
  readFile path := attempt (IO.FS.readBinFile path)
  writeFile path text := attempt (IO.FS.writeFile path text)
  makeDirectory path := attempt (IO.FS.createDir path)
  isDirectory path := do
    match ← attempt (IO.FS.readBinFile path) with
    | .error .isADirectory => return true
    | _ => return false
  print text := do
    let output ← IO.getStdout
    output.putStr text
    output.flush
  complain text := do
    (← IO.getStderr).putStr text

end CommandLine

end RuneGrid

def main (arguments : List String) : IO UInt32 := do
  RuneGrid.CommandLine.run (← IO.getEnv "RUST_LOG") arguments
