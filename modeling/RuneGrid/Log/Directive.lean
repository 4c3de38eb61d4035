import RuneGrid.Log.Record
import RuneGrid.Text.Alphanumeric
import RuneGrid.Text.Blank
import RuneGrid.Text.Number

/-!
# Log directives

A directive sets the level up to which records pass, for those whose origin its target fits and that
meet its condition. It is written as `target[span{field=value}]=level`, where all but one part may
be missing.
-/

namespace RuneGrid

namespace Log

/-- What a directive asks of a record besides its origin. -/
inductive Condition
  | always
  /-- The record has a field of this name. -/
  | field (name : String)
  /-- The record lies in a span. No record does. -/
  | span
deriving DecidableEq

namespace Condition

/-- Whether a record with these fields meets the condition. -/
def holds (names : List String) : Condition → Bool
  | always => true
  | field name => names.contains name
  | span => false

/-- Whether some record meets the condition. -/
def isPossible : Condition → Bool
  | span => false
  | _ => true

/-- The field that is asked for, or the empty name. -/
def fieldName : Condition → String
  | field name => name
  | _ => ""

end Condition

structure Directive where
  /-- The start of the paths that are meant. -/
  target : String
  condition : Condition
  /-- The least grave level that passes; `none` lets nothing pass. -/
  threshold : Option Level
deriving DecidableEq

namespace Directive

/-- The directive that lets through whatever comes from below a path and is as grave as a level. -/
def upTo (target : String) (least : Level) : Directive :=
  ⟨target, .always, some least⟩

def concerns (d : Directive) (o : Origin) : Bool :=
  d.target.isPrefixOf o.path

/-- Whether a directive gives way to another one: to one with a longer target, and with equally long
ones to one with a field, of which the later name in the order of texts counts for more. What is
equal gives way. -/
def yieldsTo (d e : Directive) : Bool :=
  if d.target.utf8ByteSize = e.target.utf8ByteSize then
    !(e.condition.fieldName < d.condition.fieldName)
  else
    d.target.utf8ByteSize < e.target.utf8ByteSize

/-- The directive among some to which the others give way. -/
def decisive? (ds : List Directive) : Option Directive :=
  ds.foldl (fun best d => some (best.elim d fun b => if b.yieldsTo d then d else b)) none

/-- Whether a record of a level passes, if it is for some directives to decide. Without any it does
not. -/
def letPass (ds : List Directive) (l : Level) : Bool :=
  (decisive? ds).any fun d => d.threshold.any fun least => l.rank ≤ least.rank

/-! ## Reading -/

/-- A level by its rank, where 0 lets nothing pass, or by its name in any case. -/
def level? (cs : List Char) : Option (Option Level) :=
  match Text.readNumber (String.ofList cs) with
  | .ok 0 => some none
  | .ok 1 => some (some .error)
  | .ok 2 => some (some .warn)
  | .ok 3 => some (some .info)
  | .ok 4 => some (some .debug)
  | .ok 5 => some (some .trace)
  | _ =>
    match (String.ofList cs).toLower with
    | "off" => some none
    | "error" => some (some .error)
    | "warn" => some (some .warn)
    | "info" => some (some .info)
    | "debug" => some (some .debug)
    | "trace" => some (some .trace)
    | _ => none

/-- A directive as it is written, cut into parts. -/
structure Parts where
  /-- What stands in front of the brackets and the equals sign. -/
  target : List Char
  condition : Option Condition
  /-- What stands behind the equals sign, if there is one. -/
  level : Option (List Char)

/-- Reads what stands between square brackets, from behind the first of them, and gives what follows
the second. A name in front of the braces is one of a span, and only spans have fields with
values. -/
def condition? (cs : List Char) : Option (Condition × List Char) :=
  let span := cs.takeWhile fun c => c ≠ ']' && c ≠ '\x7b'
  match cs.drop span.length with
  | ']' :: rest => some (.span, rest)
  | '\x7b' :: rest =>
    let field := rest.takeWhile (· ≠ '\x7d')
    match rest.drop field.length with
    | '\x7d' :: ']' :: rest =>
      if field = [] then none
      else if span ≠ [] || field.contains '=' then some (.span, rest)
      else some (.field (String.ofList field), rest)
    | _ => none
  | _ => none

/-- Reads what stands behind the brackets: nothing, or an equals sign and a level. -/
def assignment? (cs : List Char) : Option (Option (List Char)) :=
  if cs.all Text.isBlank then some none
  else match cs with
    | '=' :: rest => some (some rest)
    | _ => none

/-- Whether a target can start with a character. -/
def startsTarget (c : Char) : Bool :=
  c = '-' || c = ':' || c = '_' || Text.isAlphanumeric c

/-- Cuts a directive that no white space precedes. -/
def Parts.ofText? (cs : List Char) : Option Parts :=
  let target := cs.takeWhile fun c => c ≠ '=' && c ≠ '['
  if !target.head?.all startsTarget then none
  else match target, cs.drop target.length with
    | _, '[' :: rest => do
      let (condition, rest) ← condition? rest
      return ⟨target, some condition, ← assignment? rest⟩
    | [], _ => none
    | _, '=' :: rest => some ⟨target, none, some rest⟩
    | _, _ => some ⟨target, none, none⟩

/-- What the parts mean. A target alone may be a level for everything. Without a level, or with an
empty one, all passes. -/
def ofParts? (p : Parts) : Option Directive :=
  let condition := p.condition.getD .always
  match p.level with
  | some (c :: cs) =>
    (level? (c :: cs)).map fun threshold => ⟨String.ofList p.target, condition, threshold⟩
  | some [] => some ⟨String.ofList p.target, condition, some .trace⟩
  | none =>
    match p.condition, level? p.target with
    | none, some threshold => some ⟨"", .always, threshold⟩
    | _, _ => some ⟨String.ofList p.target, condition, some .trace⟩

/-- Reads a directive. White space in front of it counts as the start of the target, which then fits
no path, and no level can follow. -/
def parse? (s : String) : Option Directive := do
  let blanks := s.toList.takeWhile Text.isBlank
  let parts ← Parts.ofText? (s.toList.drop blanks.length)
  if blanks ≠ [] && parts.level.isSome then none
  else ofParts? { parts with target := blanks ++ parts.target }

end Directive

end Log

end RuneGrid
