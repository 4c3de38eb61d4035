import RuneGrid.Log.Record

/-!
# Subscribers to the log

A subscriber decides which records get into the log and what is written for them.
-/

namespace RuneGrid

namespace Log

structure Subscriber where
  /-- Whether records of an origin and a level may pass, as far as one can say before they are
  made. -/
  expects : Origin → Level → Bool
  /-- The line that is written for a record, if it passes. -/
  line? : Record → Option String

/-- The line for a record that is made only if it is expected, where that takes trouble. -/
def Subscriber.lineOf? (s : Subscriber) (r : Record) : Option String :=
  if !r.guarded || s.expects r.origin r.level then s.line? r else none

end Log

end RuneGrid
