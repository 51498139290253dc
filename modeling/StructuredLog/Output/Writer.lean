import StructuredLog.Output.Sink
import StructuredLog.Text.Alignment

/-!
Writers: what is done to a sink, one write after the other. A writer of several parts ends with the
first part that fails, so that nothing after it reaches the sink.
-/

namespace StructuredLog

/-- Writes to a sink and tells whether all of it was taken. -/
abbrev Writer : Type := Sink → Sink × Bool

namespace Writer

def put (s : String) : Writer := (·.write s)

/-- What comes second is reached only if all of the first was taken. -/
def andThen (first second : Writer) : Writer := fun k => Sink.andThen (first k) second

/-- One part after the other. -/
def inOrder : List Writer → Writer
  | [] => fun k => (k, true)
  | w :: ws => w.andThen (inOrder ws)

/-- One part after the other, with a separator between them. -/
def separated (sep : Writer) : List Writer → Writer
  | [] => fun k => (k, true)
  | [w] => w
  | w :: ws => w.andThen (sep.andThen (separated sep ws))

/-- Puts a text together before anything is written, and goes on with that text. -/
def buffered (w : Writer) (next : String → Writer) : Writer := fun k =>
  let (buffer, taken) := w {}
  if taken then next buffer.received k else (k, false)

/-- Spaces in runs of at most forty. -/
def spaces (n : Nat) : Writer :=
  inOrder ((List.replicate (n / 40) 40 ++ if n % 40 = 0 then [] else [n % 40]).map fun run =>
    put (StructuredLog.spaces run))

/-- Padding on the side that is free. -/
def beside (side : Side) (n : Nat) (w : Writer) : Writer :=
  match side with
  | .left => w.andThen (spaces n)
  | .right => (spaces n).andThen w

/-- A text with the padding that an alignment asks for. -/
def padded (a : Option Alignment) (s : String) : Writer :=
  match a with
  | none => put s
  | some a =>
    if a.width ≤ s.length then put s else beside a.side (a.width - s.length) (put s)

end Writer

end StructuredLog
