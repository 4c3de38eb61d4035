import RuneGrid.Text.Unprintable

/-!
# Quoted text

How a character or a text is shown between quotes, so that it can be read off a terminal: the quote
in use and the backslash are escaped, and whatever is not visible is written as its code point.
-/

namespace RuneGrid

namespace Text

/-- A code point in hexadecimal, in lower case and without padding. -/
def hexadecimal (n : Nat) : String :=
  String.ofList (Nat.toDigits 16 n)

/-- One character as it stands between two of the quotes `quote`. -/
def escape (quote c : Char) : String :=
  match c with
  | '\x00' => "\\0"
  | '\t' => "\\t"
  | '\n' => "\\n"
  | '\r' => "\\r"
  | '\\' => "\\\\"
  | c =>
    if c = quote then "\\" ++ c.toString
    else if isUnprintable c then "\\u\x7b" ++ hexadecimal c.toNat ++ "\x7d"
    else c.toString

/-- A character between single quotes. -/
def quotedChar (c : Char) : String :=
  "'" ++ escape '\'' c ++ "'"

/-- A text between double quotes. -/
def quoted (s : String) : String :=
  s.toList.foldl (fun acc c => acc ++ escape '"' c) "\"" ++ "\""

end Text

end RuneGrid
