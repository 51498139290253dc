import StructuredLog.Capture.Converter
import StructuredLog.Event.Basic

/-!
Log entries: a template with unbound arguments. Binding captures the arguments in order and makes an
event of them. The first argument whose capture fails fails the entry.
-/

namespace StructuredLog

open Capture

/-- The number of a kind of event, which may have a name as well. -/
structure EventId where
  number : Int
  name : Option String := none
  inRange : IntKind.i64.least ≤ number ∧ number ≤ IntKind.i64.greatest

namespace EventId

def isEmpty (id : EventId) : Bool := id.number = 0 && id.name.isNone

/-- A number of zero is left out. -/
def value (id : EventId) : Value :=
  let number : Value := .scalar (.integer ⟨.i64, id.number, id.inRange⟩)
  .record none ((if id.number = 0 then [] else [("Id", number)]) ++
    (id.name.map fun name => ("Name", Value.scalar (.string name))).toList)

end EventId

structure Entry (α : Type) where
  level : Level
  template : String
  /-- Values of a host by name; a hint may stand before a name. -/
  arguments : List (String × α) := []
  category : Option String := none
  eventId : Option EventId := none
  exception : Option Exception := none
  timestamp : Option ZonedDateTime := none

inductive BindError where
  | capture (e : CaptureError)
  | event (e : EventError)
  deriving DecidableEq, Repr

def BindError.message : BindError → String
  | .capture e => e.message
  | .event e => e.message

namespace Entry

def categoryName : String := "Category"

def eventIdName : String := "EventId"

/-- Splits one hint off the name of an argument. -/
def splitHint (key : String) : String × Hint :=
  match key.toList with
  | c :: rest => ((Hint.ofMark? c).map fun h => (String.ofList rest, h)).getD (key, .default)
  | [] => (key, .default)

/-- The arguments that have a name, with their hints. -/
def named (e : Entry α) : List (String × Hint × α) :=
  (e.arguments.map fun (key, a) => ((splitHint key).1, (splitHint key).2, a)).filter
    (isPropertyName ·.1)

/-- Properties that are no arguments. -/
def extras (e : Entry α) : List (String × Value) :=
  ((e.category.filter (!·.isEmpty)).map fun c =>
      (categoryName, Value.scalar (.string c))).toList ++
    ((e.eventId.filter (!·.isEmpty)).map fun id => (eventIdName, id.value)).toList

def captured (e : Entry α) (c : Converter α) (h : Host α) : Outcome (List (String × Value)) :=
  Outcome.each (fun (name, hint, a) => (c.capture h a hint).bind fun v => .pure (name, v)) e.named

/-- The event of an entry whose template is parsed. An entry without a time happens now. -/
def bind (e : Entry α) (c : Converter α) (h : Host α) (template : Template)
    (now : ZonedDateTime) : List Diagnostic × Except BindError Event :=
  let arguments := e.captured c h
  let make (properties : List (String × Value)) :=
    Event.make (e.timestamp.getD now) e.level e.exception template (properties ++ e.extras)
  (arguments.log, do
    let properties ← arguments.result.mapError .capture
    (make properties).mapError .event)

end Entry

end StructuredLog
