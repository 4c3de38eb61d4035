import RuneGrid.Diagnostic.Fault

/-!
# Writers of bytes

A byte writer takes as much of what it is given as it likes, or fails, and so does a flush. How it
answers is a script: a function of the number of the call. A write that is interrupted and has to be
made again is no failure in this sense, and no script has one.
-/

namespace RuneGrid

/-- How a writer answers the calls on it, which are numbered from 0. -/
structure Script where
  /-- The most bytes that a write takes, `none` for no limit, or its failure. -/
  write : Nat → Except WriteError (Option Nat)
  flush : Nat → Except WriteError Unit

namespace Script

/-- The script that takes everything. -/
def compliant : Script :=
  ⟨fun _ => .ok none, fun _ => .ok ()⟩

/-- A script with a limit on each write and on the number of calls that succeed. -/
def ofLimits (chunk writes flushes : Option Nat) : Script where
  write n :=
    match writes with
    | some limit => if limit ≤ n then .error ⟨.brokenPipe, "closed"⟩ else .ok chunk
    | none => .ok chunk
  flush n :=
    match flushes with
    | some limit => if limit ≤ n then .error ⟨.other, "flush failed"⟩ else .ok ()
    | none => .ok ()

end Script

/-- A writer at work: its script, the numbers of calls so far, and what it has taken. -/
structure Writer where
  script : Script
  writeCalls : Nat
  flushCalls : Nat
  /-- The number of writes that succeeded. -/
  writes : Nat
  /-- The number of flushes that succeeded. -/
  flushes : Nat
  bytes : Array UInt8

namespace Writer

def ofScript (script : Script) : Writer :=
  ⟨script, 0, 0, 0, 0, #[]⟩

/-- One write. It answers how many bytes, from the front, the writer has taken. -/
def write (bytes : List UInt8) : EStateM WriteError Writer Nat := do
  let w ← get
  match w.script.write w.writeCalls with
  | .error e =>
    set { w with writeCalls := w.writeCalls + 1 }
    throw e
  | .ok limit =>
    let taken := match limit with
      | some n => bytes.take n
      | none => bytes
    set { w with
      writeCalls := w.writeCalls + 1, writes := w.writes + 1, bytes := w.bytes ++ taken }
    return taken.length

def flush : EStateM WriteError Writer Unit := do
  let w ← get
  match w.script.flush w.flushCalls with
  | .error e =>
    set { w with flushCalls := w.flushCalls + 1 }
    throw e
  | .ok () =>
    set { w with flushCalls := w.flushCalls + 1, flushes := w.flushes + 1 }

/-- The error of a write that takes nothing. -/
def stalled : WriteError :=
  ⟨.writeZero, "failed to write whole buffer"⟩

/-- Writes until all bytes are taken. A write that takes nothing is an error, and every failure ends
the writing; interrupted writes, after which one would try again, are not among the scripted
failures. -/
def writeAll : List UInt8 → EStateM WriteError Writer Unit
  | [] => pure ()
  | b :: bs => do
    match ← write (b :: bs) with
    | 0 => throw stalled
    | n + 1 => writeAll (bs.drop n)
termination_by bytes => bytes.length
decreasing_by
  simp only [List.length_drop, List.length_cons]
  omega

end Writer

end RuneGrid
