import StructuredLog.Diagnostics.Basic
import StructuredLog.Event.Level

/-!
The diagnostic channel. At most one receiver is installed at a time; without one, diagnostics are
dropped. What earlier receivers took stays with them.
-/

namespace StructuredLog

inductive Receiver where
  /-- Takes each line by itself. -/
  | function
  /-- A text stream: each line is followed by a newline. -/
  | writer
  /-- The host's logging. -/
  | host
  deriving DecidableEq, Repr

structure HostRecord where
  level : HostLevel
  target : String
  text : String
  deriving DecidableEq, Repr

structure Channel where
  receiver : Option Receiver := none
  toFunction : List String := []
  toWriter : List String := []
  toHost : List HostRecord := []
  deriving DecidableEq, Repr

namespace Channel

/-- Replaces the receiver. -/
def enable (r : Receiver) (c : Channel) : Channel := { c with receiver := some r }

def disable (c : Channel) : Channel := { c with receiver := none }

def isEnabled (c : Channel) : Bool := c.receiver.isSome

/-- The target under which diagnostics reach the host's logging. -/
def hostTarget : String := "plume::selflog"

def emit (d : Diagnostic) (c : Channel) : Channel :=
  match c.receiver with
  | none => c
  | some .function => { c with toFunction := c.toFunction ++ [d.message] }
  | some .writer => { c with toWriter := c.toWriter ++ [d.message ++ "\n"] }
  | some .host => { c with toHost := c.toHost ++ [⟨.warn, hostTarget, d.message⟩] }

def emitAll (ds : List Diagnostic) (c : Channel) : Channel := ds.foldl (fun c d => c.emit d) c

end Channel

end StructuredLog
