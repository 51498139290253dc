import StructuredLog.Capture.Converter
import StructuredLog.Line.Basic
import StructuredLog.Theme.Dotted

/-!
The options of a formatter: how lines look and what captures keep.
-/

namespace StructuredLog

structure Options where
  outputTemplate : String := defaultOutputTemplate
  /-- Entries without a time are stamped in universal time. -/
  universalTime : Bool := false
  depth : Nat := 10
  textLength : Option Nat := none
  itemCount : Option Nat := none
  strict : Bool := false
  /-- The strings of the styles that are given, in the order of the styles; without any theme lines
  are plain. -/
  theme : Option (List (Style × String)) := none
  deriving DecidableEq, Repr

namespace Options

def limits (o : Options) : Capture.Limits := ⟨o.depth, o.textLength, o.itemCount⟩

def converter (o : Options) : Capture.Converter α := { limits := o.limits, strict := o.strict }

/-- The theme of strings for styles, of which the first that means nothing is the error. -/
def buildTheme? (styles : List (Style × String)) : Except InvalidStyle Theme := do
  return .ansi (← styles.mapM fun (s, text) => do return (s, ← Dotted.parse text))

def buildTheme (o : Options) : Except InvalidStyle Theme :=
  match o.theme with
  | none => .ok .plain
  | some styles => buildTheme? styles

end Options

end StructuredLog
