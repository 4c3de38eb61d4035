import Mathlib.Tactic.Common
import RuneGrid.Log.Record

/-!
# Records of events

The log of one stretch of events after the other is that of the first and then that of the second
(`Log.recordsOf_append`), so a log can be told event by event.
-/

namespace RuneGrid

namespace Log

theorem recordsOf_append (least : Level) (events events' : List Event) :
    recordsOf least (events ++ events') = recordsOf least events ++ recordsOf least events' := by
  unfold recordsOf
  rw [List.filterMap_append, List.filter_append]

theorem recordsOf_flatMap {α : Type} (least : Level) (l : List α) (f : α → List Event) :
    recordsOf least (l.flatMap f) = l.flatMap fun a => recordsOf least (f a) := by
  induction l with
  | nil => rfl
  | cons a l ih => rw [List.flatMap_cons, recordsOf_append, ih, List.flatMap_cons]

end Log

end RuneGrid
