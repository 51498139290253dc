import StructuredLog.Calendar.Moment
import StructuredLog.Event.Level
import StructuredLog.Event.Properties
import StructuredLog.Template.Basic
import StructuredLog.Text.Blank

/-!
Log events, and changes to their properties. A property name must hold something other than blanks;
an event that is given another name stays as it is.
-/

namespace StructuredLog

/-- The text of an error and of what caused it, outermost first. -/
structure Exception where
  text : String
  causes : List String
  deriving DecidableEq, Repr

/-- One line for the error, and one for each cause. -/
def Exception.fullText (e : Exception) : String :=
  String.join (e.text :: e.causes.map ("\n   caused by: " ++ ·))

inductive EventError where
  | invalidPropertyName
  deriving DecidableEq, Repr

def EventError.message : EventError → String
  | .invalidPropertyName => "property name must not be empty or whitespace"

structure Event where
  timestamp : ZonedDateTime
  level : Level
  exception : Option Exception
  template : Template
  properties : PropertyMap

def isPropertyName (name : String) : Bool := !Text.allBlank name

namespace Event

def set (e : Event) (name : String) (v : Value) : Except EventError Event :=
  if isPropertyName name then .ok { e with properties := e.properties.insert name v }
  else .error .invalidPropertyName

def setIfAbsent (e : Event) (name : String) (v : Value) : Except EventError Event :=
  if isPropertyName name then .ok { e with properties := e.properties.insertIfAbsent name v }
  else .error .invalidPropertyName

def remove (e : Event) (name : String) : Event :=
  { e with properties := e.properties.erase name }

/-- An event with the given properties, of which later ones replace earlier ones. -/
def make (timestamp : ZonedDateTime) (level : Level) (exception : Option Exception)
    (template : Template) (props : List (String × Value)) : Except EventError Event :=
  props.foldlM (fun e (name, v) => e.set name v) ⟨timestamp, level, exception, template, {}⟩

end Event

end StructuredLog
