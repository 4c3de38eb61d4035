import RuneGrid.Diagnostic.Fault

/-!
# Sinks

A sink takes the glyphs that a program writes, one by one, and remembers those that it took.
-/

namespace RuneGrid

class Sink (σ : Type) where
  /-- Takes one more glyph. A glyph that is refused may still leave its trace on the sink. -/
  emit : Char → EStateM WriteError σ Unit
  /-- The glyphs taken so far, in order. -/
  transcript : σ → String

/-- The sink that takes everything and does nothing but remember it. -/
structure Transcript where
  text : String
deriving DecidableEq

namespace Transcript

def empty : Transcript :=
  ⟨""⟩

def push (t : Transcript) (glyph : Char) : Transcript :=
  ⟨t.text.push glyph⟩

instance : Sink Transcript where
  emit glyph := modify (·.push glyph)
  transcript := text

end Transcript

end RuneGrid
