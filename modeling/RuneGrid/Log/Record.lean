import RuneGrid.Event
import RuneGrid.Instruction.Basic
import RuneGrid.Text.Quoted

/-!
# Log records

What a log line says: how grave it is, which part of the program it comes from, a message and named
values. Not every event has a record of its own.
-/

namespace RuneGrid

namespace Log

inductive Level
  | error
  | warn
  | info
  | debug
  | trace
deriving DecidableEq

namespace Level

/-- The graver a level, the lower its rank. -/
def rank : Level → Nat
  | error => 1
  | warn => 2
  | info => 3
  | debug => 4
  | trace => 5

def name : Level → String
  | error => "ERROR"
  | warn => "WARN"
  | info => "INFO"
  | debug => "DEBUG"
  | trace => "TRACE"

/-- The name in five columns. -/
def label (l : Level) : String :=
  if l.name.length < 5 then " " ++ l.name else l.name

/-- The colour of the label, as a terminal knows it. -/
def colour : Level → Nat
  | error => 31
  | warn => 33
  | info => 32
  | debug => 34
  | trace => 35

end Level

/-- The part of the program that a record comes from. -/
inductive Origin
  | grid
  | scheduler
  | commandLine
deriving DecidableEq

/-- The path by which a filter names the part. -/
def Origin.path : Origin → String
  | grid => "runar_core::grid"
  | scheduler => "runar_core::scheduler"
  | commandLine => "runar"

structure Record where
  level : Level
  origin : Origin
  message : String
  fields : List (String × String)
  /-- Whether it takes trouble to make the record, so that it is made only if one of its level and
  origin can pass at all. -/
  guarded : Bool

namespace Record

/-- The names by which a filter asks for fields. The message counts as one. -/
def fieldNames (r : Record) : List String :=
  "message" :: r.fields.map Prod.fst

/-- A line of the log, where `paint` puts text in a style of the terminal: the level in its colour,
names slanted, and dim equals signs. -/
def line (paint : Nat → String → String) (r : Record) : String :=
  r.fields.foldl (fun acc (name, value) => s!"{acc} {paint 3 name}{equals}{value}")
    s!"{paint r.level.colour r.level.label} {r.message}"
where
  equals : String := paint 2 "="

/-- A line without styles. -/
def plain (r : Record) : String :=
  r.line fun _ s => s

/-- Text between the codes that switch a style of the terminal on and off. -/
def styled (code : Nat) (s : String) : String :=
  s!"\x1b[{code}m{s}\x1b[0m"

/-- A line for a terminal. -/
def coloured (r : Record) : String :=
  r.line styled

end Record

/-- How a trace shows the top of the stack, where an entry may be missing or unset. -/
def topText : Option (Option Word) → String
  | none => "None"
  | some none => "Some(None)"
  | some (some v) => s!"Some(Some({v.toInt}))"

/-- The record of an event, for the events that are logged. -/
def ofEvent? : Event → Option Record
  | .loaded rows pointers =>
    some ⟨.info, .grid, "loaded program",
      [("rows", toString rows), ("pointers", toString pointers)], false⟩
  | .started pointers =>
    some ⟨.info, .scheduler, "run start", [("pointers", toString pointers)], false⟩
  | .command pointer pos glyph =>
    some ⟨.debug, .scheduler, "command",
      [("pointer", toString pointer), ("x", toString pos.x), ("y", toString pos.y),
        ("glyph", glyph.toString), ("op", Text.quoted (Instruction.ofGlyph glyph).mnemonic)], false⟩
  | .ticked tick registers top =>
    some ⟨.debug, .scheduler, "pointer vars",
      [("tick", toString tick), ("registers", String.ofList (registers.map Glyph.ofRegister)),
        ("stack_top", topText top)], true⟩
  | .halted ticks => some ⟨.info, .scheduler, "halted", [("ticks", toString ticks)], false⟩
  | .pushed .. | .popped .. | .emitted .. => none

/-- The records of some events, as far as they are as grave as a level. -/
def recordsOf (least : Level) (events : List Event) : List Record :=
  (events.filterMap ofEvent?).filter fun r => r.level.rank ≤ least.rank

end Log

end RuneGrid
