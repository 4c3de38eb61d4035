import RuneGrid.Grid.Basic
import RuneGrid.Pentimal
import RuneGrid.Text.Blank
import RuneGrid.Text.Line

/-!
# Reading a grid from source text

Each line of the source is one row. White space at the end of a line does not count, so a carriage
return before the line feed does not either; numerals are read as digits.
-/

namespace RuneGrid

namespace Grid

/-- The grid that a source describes. Of several unreadable clusters the first one is blamed. -/
def parse (source : String) : Except LoadError Grid := do
  let rows ← ((Text.lines source.toList).zipIdx 1).mapM fun (line, number) =>
    Pentimal.readLine number (Text.trimEnd line)
  ofRows rows

end Grid

end RuneGrid
