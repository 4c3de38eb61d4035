/-!
# Acting on a part of a state

An action on a part of a state is an action on the whole, also when it fails: the part is put back
as the failure left it.
-/

namespace RuneGrid

/-- Lets an action work on one part of the state. -/
def focus {ε σ τ α : Type} (part : σ → τ) (replace : τ → σ → σ) (act : EStateM ε τ α) :
    EStateM ε σ α := fun s =>
  match act (part s) with
  | .ok a t => .ok a (replace t s)
  | .error e t => .error e (replace t s)

end RuneGrid
