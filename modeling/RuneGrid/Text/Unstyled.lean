/-!
# Text without terminal sequences

A terminal takes some sequences of characters as orders: an escape character and what belongs to it.
What is left of a text is what a terminal would show of it.
-/

namespace RuneGrid

namespace Text

/-- Where in a sequence a terminal is. -/
inductive SequenceState
  /-- In plain text. -/
  | ground
  /-- Behind an escape character. -/
  | escape
  | escapeIntermediate
  /-- In an order with parameters. -/
  | control
  /-- In an order to the system around the terminal. -/
  | system
  /-- At the start of an order to the device. -/
  | deviceEntry
  | deviceParameter
  | deviceIntermediate
  /-- In the data of an order to the device. -/
  | deviceData
  /-- In a string that is passed over. -/
  | string
deriving DecidableEq

/-- Whether a character lies in a range of code points, both ends included. -/
def isBetween (low high : Nat) (c : Char) : Bool :=
  low ≤ c.toNat && c.toNat ≤ high

/-- The blanks that a terminal acts on wherever an order does not swallow them. -/
def isLayout (c : Char) : Bool :=
  c = '\t' || c = '\n' || c = '\x0c' || c = '\r'

/-- Whether the byte that ends a string is among the bytes of a character. -/
def endsString (c : Char) : Bool :=
  c.toString.toUTF8.toList.contains 0x9C

namespace SequenceState

/-- Whether a character is shown in a state. -/
def shows (s : SequenceState) (c : Char) : Bool :=
  match s with
  | ground => isBetween 0x20 0x7E c || isLayout c || 0x80 ≤ c.toNat
  | escape | escapeIntermediate | control => isLayout c
  | _ => false

/-- The state behind a character. The escape character starts a sequence anywhere, and two of the
controls end one. -/
def next (s : SequenceState) (c : Char) : SequenceState :=
  if c = '\x1b' then escape
  else if c = '\x18' || c = '\x1a' then ground
  else match s with
    | ground => ground
    | escape =>
      if isBetween 0x20 0x2F c then escapeIntermediate
      else if c = '[' then control
      else if c = ']' then system
      else if c = 'P' then deviceEntry
      else if c = 'X' || c = '^' || c = '_' then string
      else if isBetween 0x30 0x7E c then ground
      else escape
    | escapeIntermediate => if isBetween 0x30 0x7E c then ground else escapeIntermediate
    | control => if isBetween 0x40 0x7E c then ground else control
    | system => if c = '\x07' then ground else system
    | deviceEntry =>
      if isBetween 0x20 0x2F c then deviceIntermediate
      else if isBetween 0x30 0x3F c then deviceParameter
      else if isBetween 0x40 0x7E c then deviceData
      else deviceEntry
    | deviceParameter =>
      if isBetween 0x20 0x2F c then deviceIntermediate
      else if isBetween 0x3C 0x7E c then deviceData
      else deviceParameter
    | deviceIntermediate => if isBetween 0x30 0x7E c then deviceData else deviceIntermediate
    | deviceData => if endsString c then ground else deviceData
    | string => if endsString c then ground else string

end SequenceState

/-- What is shown of a text. In a stretch of shown characters everything counts as plain text until
one is not shown; the sequence before the stretch then goes on, unless a character beyond ASCII has
ended it. -/
def shown (showing : Bool) (s : SequenceState) : List Char → List Char
  | [] => []
  | c :: cs =>
    if (if showing then .ground else s : SequenceState).shows c then
      c :: shown true (if c.toNat < 0x80 then s else .ground) cs
    else shown false (s.next c) cs

/-- A text without its terminal sequences. -/
def unstyled (s : String) : String :=
  String.ofList (shown false .ground s.toList)

end Text

end RuneGrid
