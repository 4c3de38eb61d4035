import RuneGrid.Execution.Run
import RuneGrid.Text.Json

/-!
# Run reports

The summary of a run for other programs to read: how it ended, what it wrote, and where it left the
grid, the pointers and the stack. A source that cannot be loaded has a report as well.
-/

namespace RuneGrid

/-- What a report says about an error. The place is that of a load error, the site and the tick are
those of a run error. -/
structure Report.Problem where
  code : ErrorCode
  message : String
  site : Option Site
  line : Option Nat
  column : Option Nat
  tick : Option Nat
deriving DecidableEq

namespace Report.Problem

def phase (e : Report.Problem) : Phase :=
  e.code.phase

def ofRunError (e : RunError) : Report.Problem where
  code := e.code
  message := e.message
  site := e.site?
  line := none
  column := none
  tick := some e.tick

def ofLoadError (e : LoadError) : Report.Problem where
  code := e.code
  message := e.description
  site := none
  line := if 0 < e.line then some e.line else none
  column := if 0 < e.line then some e.column else none
  tick := none

end Report.Problem

structure Report where
  ok : Bool
  halted : Bool
  ticks : Nat
  output : String
  grid : List String
  pointers : List Pointer
  /-- From the bottom to the top. -/
  stack : List (Option Word)
  error : Option Report.Problem

namespace Report

/-- The version of the form in which reports are written. -/
def schemaVersion : String := "runar.run.report@0.1.0"

/-- The report of a run that ended. -/
def ofRun {σ : Type} [Sink σ] (r : Run σ) : Report where
  ok := r.result.toBool
  halted := r.final.halted
  ticks := r.final.ticks
  output := r.final.transcript
  grid := r.final.grid.render
  pointers := r.final.pointers
  stack := r.final.stack.toList
  error := match r.result with
    | .error e => some (.ofRunError e)
    | .ok _ => none

/-- The report of a source that could not be loaded. -/
def ofLoadError (e : LoadError) : Report where
  ok := false
  halted := false
  ticks := 0
  output := ""
  grid := []
  pointers := []
  stack := []
  error := some (.ofLoadError e)

end Report

/-! ## The written form -/

namespace Json

def ofWord (v : Option Word) : Json :=
  ofOption (fun v => int v.toInt) v

def ofChar (c : Char) : Json :=
  str c.toString

def ofVec (v : Vec) : Json :=
  obj [("x", int v.x), ("y", int v.y)]

def ofPointer (p : Pointer) : Json :=
  obj [("id", int p.id), ("x", int p.pos.x), ("y", int p.pos.y),
    ("origin", arr [int p.origin.x, int p.origin.y]), ("symbol", ofChar p.symbol),
    ("velocity", ofVec p.velocity), ("wrap_bias", ofVec p.bias), ("value", ofWord p.register)]

def ofSite (s : Site) : Json :=
  obj [("pointer", int s.pointer), ("x", int s.pos.x), ("y", int s.pos.y),
    ("glyph", ofOption ofChar s.glyph)]

/-- The members of an error report that are there. -/
def ofProblem (e : Report.Problem) : Json :=
  let number (key : String) (n : Option Nat) := n.toList.map fun (n : Nat) => (key, int n)
  obj <| [("code", str e.code.id), ("phase", str e.phase.name), ("message", str e.message)]
    ++ e.site.toList.map (fun s => ("site", ofSite s))
    ++ number "line" e.line ++ number "column" e.column ++ number "tick" e.tick

def ofReport (r : Report) : Json :=
  obj [("schema_version", str Report.schemaVersion), ("ok", bool r.ok),
    ("halted", bool r.halted), ("ticks", int r.ticks), ("output", str r.output),
    ("grid", arr (r.grid.map str)), ("pointers", arr (r.pointers.map ofPointer)),
    ("stack", arr (r.stack.map ofWord)), ("error", ofOption ofProblem r.error)]

end Json

/-- The report as it is written to a file: a document by the given encoder, and the end of its last
line. -/
def Report.encode (encoder : Json → Except String String) (r : Report) : Except String String := do
  return (← encoder (Json.ofReport r)) ++ "\n"

/-- The report as it is written with every item on a line of its own. -/
def Report.text (r : Report) : String :=
  (Json.ofReport r).document

end RuneGrid
