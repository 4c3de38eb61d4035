import RuneGrid.CommandLine.Host

/-!
# A machine in memory

A tree of files and the text of both outputs: a host that answers as a real one does, and about
which theorems can be stated. The tree can have names for the outputs themselves.
-/

namespace RuneGrid

namespace CommandLine

inductive Entry
  | file (bytes : ByteArray)
  | directory
  /-- A name for the output for results. -/
  | output
  /-- A name for the output for complaints. -/
  | complaints

/-- The names that lead from the root to a place. -/
abbrev Place := List String

structure Machine where
  /-- What there is besides the root. -/
  entries : List (Place × Entry)
  /-- Where relative paths start. -/
  here : Place
  output : String
  complaints : String

namespace Machine

/-- A machine with nothing but the directory in which it is used. -/
def empty : Machine :=
  ⟨[(["work"], .directory)], ["work"], "", ""⟩

def entry? (k : Machine) (place : Place) : Option Entry :=
  if place = [] then some .directory else k.entries.lookup place

def put (k : Machine) (place : Place) (e : Entry) : Machine :=
  { k with entries := (place, e) :: k.entries }

/-- The bytes that a name can have. -/
def nameLimit : Nat := 255

/-- The bytes that a path can have. -/
def pathLimit : Nat := 4095

/-- Goes from a place by one name, which takes a directory. -/
def enter (k : Machine) (place : Place) (name : String) : Except FileError Place :=
  match k.entry? place with
  | none => .error .notFound
  | some .directory =>
    if nameLimit < name.utf8ByteSize then .error .nameTooLong
    else .ok (if name = "." then place else if name = ".." then place.dropLast else place ++ [name])
  | some _ => .error .notADirectory

/-- The place that a path leads to, whether or not there is something. -/
def locate (k : Machine) (path : String) : Except FileError Place :=
  if pathLimit < path.utf8ByteSize then .error .nameTooLong
  else
    ((path.splitOn "/").filter (· ≠ "")).foldlM k.enter
      (if path.startsWith "/" then [] else k.here)

/-- Whether a path insists on a directory. -/
def insists (path : String) : Bool :=
  path.endsWith "/"

/-- Writes to the output for results. -/
def print (k : Machine) (text : String) : Machine :=
  { k with output := k.output ++ text }

/-- Writes to the output for complaints. -/
def complain (k : Machine) (text : String) : Machine :=
  { k with complaints := k.complaints ++ text }

/-- Reads a file. From an output there is nothing to read. -/
def read (k : Machine) (path : String) : Except FileError ByteArray := do
  match k.entry? (← k.locate path) with
  | none => throw .notFound
  | some .directory => throw .isADirectory
  | some (.file bytes) => if insists path then throw .notADirectory else return bytes
  | some .output | some .complaints =>
    if insists path then throw .notADirectory else return .empty

/-- Writes to what the path names, which need not be a file. -/
def write (k : Machine) (path text : String) : Except FileError Machine := do
  let place ← k.locate path
  match k.entry? place, insists path with
  | some .directory, _ | _, true => throw .isADirectory
  | some .output, false => return k.print text
  | some .complaints, false => return k.complain text
  | _, false => return k.put place (.file text.toUTF8)

def makeDirectory (k : Machine) (path : String) : Except FileError Machine := do
  let place ← k.locate path
  match k.entry? place with
  | some _ => throw .alreadyExists
  | none => return k.put place .directory

def isDirectory (k : Machine) (path : String) : Bool :=
  match k.locate path with
  | .error _ => false
  | .ok place =>
    match k.entry? place with
    | some .directory => true
    | _ => false

/-- Replaces the machine by the one that an action leaves behind, if it succeeds. -/
def become (act : Machine → Except FileError Machine) : StateM Machine (Except FileError Unit) := do
  match act (← get) with
  | .ok next => set next; return .ok ()
  | .error e => return .error e

instance : Host (StateM Machine) where
  readFile path := return (← get).read path
  writeFile path text := become (·.write path text)
  makeDirectory path := become (·.makeDirectory path)
  isDirectory path := return (← get).isDirectory path
  print text := modify (·.print text)
  complain text := modify (·.complain text)

end Machine

end CommandLine

end RuneGrid
