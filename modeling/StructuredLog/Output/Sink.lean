/-!
Receivers of text. A sink may refuse one character: a write that holds it delivers what stands
before its first occurrence and fails. Later writes are judged afresh.
-/

namespace StructuredLog

structure Sink where
  refused : Option Char := none
  received : String := ""
  deriving DecidableEq, Repr

namespace Sink

/-- The part of a text that is delivered. -/
def delivered (refused : Option Char) (s : String) : String :=
  match refused with
  | some c => String.ofList (s.toList.takeWhile (· != c))
  | none => s

def takes (refused : Option Char) (s : String) : Bool :=
  match refused with
  | some c => !s.toList.contains c
  | none => true

/-- The sink after a write, and whether all of the text was taken. -/
def write (k : Sink) (s : String) : Sink × Bool :=
  ({ k with received := k.received ++ delivered k.refused s }, takes k.refused s)

/-- Goes on only if all went well so far. -/
def andThen (r : Sink × Bool) (next : Sink → Sink × Bool) : Sink × Bool :=
  if r.2 then next r.1 else r

/-- Writes one text after the other until one fails. -/
def writeEach (k : Sink) : List String → Sink × Bool
  | [] => (k, true)
  | s :: rest => andThen (k.write s) fun k => k.writeEach rest

/-- A sink that refuses nothing takes every text. -/
@[simp] theorem write_none (before s : String) :
    write ⟨none, before⟩ s = (⟨none, before ++ s⟩, true) := rfl

theorem writeEach_none (before : String) (ss : List String) :
    writeEach ⟨none, before⟩ ss = (⟨none, before ++ String.join ss⟩, true) := by
  induction ss generalizing before with
  | nil => simp [writeEach]
  | cons s ss ih => simp [writeEach, andThen, ih, String.append_assoc]

end Sink

end StructuredLog
