import StructuredLog.Output.Writer

/-!
Writers that count. A theme adds sequences that take no room on screen; whoever writes through it
tells how many of the characters written are invisible, so that alignment can make up for them.
Counts are added up part by part, and there is none once a part has failed.
-/

namespace StructuredLog

/-- Writes to a sink and counts the invisible characters of it, unless not all was taken. -/
abbrev CountingWriter : Type := Sink → Sink × Option Nat

namespace CountingWriter

/-- Reports a count that is known beforehand. -/
def counted (n : Nat) (w : Writer) : CountingWriter := fun k =>
  let (k, taken) := w k
  (k, if taken then some n else none)

/-- Has no use for the count. -/
def uncounted (w : CountingWriter) : Writer := fun k =>
  let (k, count) := w k
  (k, count.isSome)

/-- What comes second is reached only if all of the first was taken. -/
def andThen (first second : CountingWriter) : CountingWriter := fun k =>
  match first k with
  | (k, some m) =>
    let (k, count) := second k
    (k, count.map (m + ·))
  | (k, none) => (k, none)

/-- One part after the other. -/
def inOrder : List CountingWriter → CountingWriter
  | [] => fun k => (k, some 0)
  | w :: ws => w.andThen (inOrder ws)

/-- One part after the other, with a separator between them. -/
def separated (sep : CountingWriter) : List CountingWriter → CountingWriter
  | [] => fun k => (k, some 0)
  | [w] => w
  | w :: ws => w.andThen (sep.andThen (separated sep ws))

/-- Puts a text together before anything is written, and goes on with that text and its count. -/
def buffered (w : CountingWriter) (next : String → Nat → CountingWriter) : CountingWriter :=
  fun k =>
    match w {} with
    | (buffer, some n) => next buffer.received n k
    | (_, none) => (k, none)

/-- Padding on the side that is free, which is visible. -/
def beside (side : Side) (n : Nat) (w : CountingWriter) : CountingWriter :=
  let gap := counted 0 (Writer.spaces n)
  match side with
  | .left => w.andThen gap
  | .right => gap.andThen w

end CountingWriter

end StructuredLog
