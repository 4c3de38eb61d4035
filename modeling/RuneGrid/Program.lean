import RuneGrid.Event
import RuneGrid.Grid.Source
import RuneGrid.Pointer

/-!
# Loaded programs

A loaded program is a grid together with one pointer for each of its start glyphs, numbered in
reading order.
-/

namespace RuneGrid

/-- The pointers that the start glyphs of the grid set off. -/
def Grid.pointers (g : Grid) : List Pointer :=
  (g.cells.filterMap fun (pos, c) => Pointer.spawn? 0 pos c).mapIdx fun id p => { p with id }

structure Program where
  grid : Grid
  pointers : List Pointer

namespace Program

def ofGrid (grid : Grid) : Program :=
  ⟨grid, grid.pointers⟩

/-- The program with these rows, read as they are. -/
def ofRows (rows : List (List Char)) : Except LoadError Program :=
  (Grid.ofRows rows).map ofGrid

/-- The program that a source describes. -/
def load (source : String) : Except LoadError Program :=
  (Grid.parse source).map ofGrid

/-- What an observer is told once a source is read. -/
def loadedEvent (p : Program) : Event :=
  .loaded p.grid.height p.pointers.length

/-- Loads a source and tells `observe` about it. Nothing is told of a source that cannot be
loaded. -/
@[specialize]
def loadWith {m : Type → Type} [Monad m] (observe : Event → m Unit) (source : String) :
    m (Except LoadError Program) := do
  match load source with
  | .error e => return .error e
  | .ok program =>
    observe program.loadedEvent
    return .ok program

end Program

end RuneGrid
