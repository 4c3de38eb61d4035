import RuneGrid.Diagnostic.Error
import RuneGrid.Glyph

/-!
# Pentimal numerals

A numeral is a stem rune with combining marks on it, each worth a fixed number of strokes. A cluster
with `n` strokes reads as the hexadecimal digit of `n - 1`; a glyph without marks reads as itself.
A combining mark that leads its line has nothing to sit on: it is the base of its own cluster, and
its strokes count.
-/

namespace RuneGrid

namespace Pentimal

/-- The rune that carries the marks. It is worth nothing by itself. -/
def stem : Char := 'ᛁ'

/-- Whether a character joins the cluster before it. -/
def isCombining (c : Char) : Bool :=
  0x0300 ≤ c.toNat && c.toNat ≤ 0x036F

/-- The strokes of a mark. Two marks are worth the same, and nothing else is a mark. -/
def strokes? : Char → Option Nat
  | '\u0335' | '\u0304' => some 1
  | '\u0333' | '\u033F' => some 2
  | '\u0339' | '\u0357' => some 5
  | '\u030A' | '\u0325' => some 10
  | _ => none

/-- Splits a line into its clusters: a character starts one unless it is combining and not the
first. -/
def clusters (line : List Char) : List (List Char) :=
  line.splitBy fun _ c => isCombining c

/-- Adds the strokes of marks to `n`, modulo 16. A character that is no mark is the error. -/
def addStrokes (n : Nat) : List Char → Except Char Nat
  | [] => .ok n
  | m :: marks =>
    match strokes? m with
    | some s => addStrokes ((n + s) % 16) marks
    | none => .error m

/-- The digit that `n` strokes stand for: that of `n - 1`, counted around from 15 to 0. -/
def digitOfStrokes (n : Nat) : Char :=
  Glyph.ofDigit ⟨(n + 15) % 16, Nat.mod_lt _ (by decide)⟩

/-- Reads a cluster as one cell. The error is the character that cannot be read. -/
def readCluster : List Char → Except Char Char
  | [] => .error '\uFFFD'
  | base :: marks =>
    match strokes? base, marks with
    | none, [] => if isCombining base then .error base else .ok base
    | some _, [] => .ok base
    | none, marks =>
      if base = stem then (addStrokes 0 marks).map digitOfStrokes else .error base
    | some s, marks => (addStrokes s marks).map digitOfStrokes

/-- Reads a line cell by cell. The error names the line and, counted from 1, the cluster. -/
def readLine (number : Nat) (line : List Char) : Except LoadError (List Char) :=
  ((clusters line).zipIdx 1).mapM fun (cluster, column) =>
    (readCluster cluster).mapError (.unknownMark number column)

end Pentimal

end RuneGrid
