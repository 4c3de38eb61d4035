import RuneGrid.Focus
import RuneGrid.Sink.Basic
import RuneGrid.Sink.Writer

/-!
# Streams

The sink that passes every glyph on to a byte writer as soon as it comes, and keeps a copy of those
that went through.
-/

namespace RuneGrid

structure Stream where
  writer : Writer
  copy : Transcript

namespace Stream

def ofScript (script : Script) : Stream :=
  ⟨.ofScript script, .empty⟩

/-- Lets the writer act. -/
def onWriter (act : EStateM WriteError Writer Unit) : EStateM WriteError Stream Unit :=
  focus writer (fun w s => { s with writer := w }) act

/-- Writes the encoding of the glyph and flushes. Only a glyph that passed both is copied. -/
def emit (glyph : Char) : EStateM WriteError Stream Unit := do
  onWriter (Writer.writeAll (String.utf8EncodeChar glyph))
  onWriter Writer.flush
  modify fun s => { s with copy := s.copy.push glyph }

instance : Sink Stream where
  emit := emit
  transcript s := s.copy.text

end Stream

end RuneGrid
