import RuneGrid.Log.Directive
import RuneGrid.Log.Subscriber

/-!
# Log filters

A filter is a list of directives. Of those that fit a record the most specific one decides whether
it passes. A subscriber with a filter writes a coloured line for whatever passes.
-/

namespace RuneGrid

namespace Log

structure Filter where
  directives : List Directive
deriving DecidableEq

namespace Filter

/-- The directives about an origin. -/
def about (f : Filter) (o : Origin) : List Directive :=
  f.directives.filter (·.concerns o)

/-- Whether records of an origin and a level may pass, as far as one can say before they are
made. -/
def expects (f : Filter) (o : Origin) (l : Level) : Bool :=
  Directive.letPass ((f.about o).filter (·.condition.isPossible)) l

/-- Whether a record passes. -/
def admits (f : Filter) (r : Record) : Bool :=
  Directive.letPass ((f.about r.origin).filter (·.condition.holds r.fieldNames)) r.level

/-- The filter of some directives. Without any it lets only errors pass. -/
def ofDirectives : List Directive → Filter
  | [] => ⟨[.upTo "" .error]⟩
  | directives => ⟨directives⟩

/-- The parts of a filter that is written as directives with commas between them. -/
def pieces (s : String) : List String :=
  (s.splitOn ",").filter (· ≠ "")

/-- Reads a filter, all of whose directives have to make sense. -/
def parse? (s : String) : Option Filter :=
  ((pieces s).mapM Directive.parse?).map ofDirectives

/-- Reads a filter and passes over directives that make no sense. -/
def parseLossy (s : String) : Filter :=
  ofDirectives ((pieces s).filterMap Directive.parse?)

def subscriber (f : Filter) : Subscriber where
  expects := f.expects
  line? r := if f.admits r then some (r.coloured ++ "\n") else none

end Filter

end Log

end RuneGrid
