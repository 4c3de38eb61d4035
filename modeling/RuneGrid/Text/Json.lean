/-!
# JSON documents

JSON values whose objects keep the order of their members, and their text with one item on a line.
-/

namespace RuneGrid

inductive Json
  | null
  | bool (b : Bool)
  | int (n : Int)
  | str (s : String)
  | arr (items : List Json)
  | obj (members : List (String × Json))

namespace Json

/-- The value or `null`. -/
def ofOption {α : Type} (f : α → Json) : Option α → Json
  | some a => f a
  | none => null

/-- A code of four hexadecimal digits, for code points below 256. -/
def escapeCode (n : Nat) : String :=
  String.ofList ['\\', 'u', '0', '0', (n / 16).digitChar, (n % 16).digitChar]

/-- A character inside a string. All but quotes, backslashes and controls stand for themselves. -/
def escape (c : Char) : String :=
  match c with
  | '"' => "\\\""
  | '\\' => "\\\\"
  | '\x08' => "\\b"
  | '\x0c' => "\\f"
  | '\n' => "\\n"
  | '\r' => "\\r"
  | '\t' => "\\t"
  | c => if c.toNat < 0x20 then escapeCode c.toNat else c.toString

def quote (s : String) : String :=
  s.toList.foldl (fun acc c => acc ++ escape c) "\"" ++ "\""

mutual

/-- The text of a value whose last line starts at `margin`. Arrays and objects that are not empty
have every item on a line of its own, two columns further in. -/
def pretty (margin : String) : Json → String
  | null => "null"
  | bool b => if b then "true" else "false"
  | int n => toString n
  | str s => quote s
  | arr [] => "[]"
  | arr items => "[\n" ++ prettyItems (margin ++ "  ") items ++ "\n" ++ margin ++ "]"
  | obj [] => "\x7b\x7d"
  | obj members => "\x7b\n" ++ prettyMembers (margin ++ "  ") members ++ "\n" ++ margin ++ "\x7d"

def prettyItems (margin : String) : List Json → String
  | [] => ""
  | [item] => margin ++ pretty margin item
  | item :: items => margin ++ pretty margin item ++ ",\n" ++ prettyItems margin items

def prettyMember (margin : String) : String × Json → String
  | (key, value) => margin ++ quote key ++ ": " ++ pretty margin value

def prettyMembers (margin : String) : List (String × Json) → String
  | [] => ""
  | [m] => prettyMember margin m
  | m :: members => prettyMember margin m ++ ",\n" ++ prettyMembers margin members

end

/-- The text of a whole document, which ends its last line. -/
def document (j : Json) : String :=
  j.pretty "" ++ "\n"

end Json

end RuneGrid
