import StructuredLog.Json.Document
import StructuredLog.Keyed
import StructuredLog.Options.Basic

/-!
Reading options from a tree of settings. Absent fields keep their defaults and unknown ones are
ignored; a field of another kind than it should be makes the whole tree unreadable.
-/

namespace StructuredLog

/-- How the kinds of settings are read off the nodes of a tree. -/
structure Settings (ν : Type) where
  text? : ν → Option String
  flag? : ν → Option Bool
  count? : ν → Option Nat
  isAbsent? : ν → Option Bool
  /-- The members of a record, by the names of its fields. -/
  fields? : ν → Option (List (String × ν))
  /-- The members of a map, by the names of the choices that are its keys. -/
  choices? : ν → Option (List (String × ν))

namespace Settings

/-- Counts are numbers of 64 bits. -/
def maxCount : Nat := 0xffffffffffffffff

def optional? (s : Settings ν) (read? : ν → Option β) (v : ν) : Option (Option β) := do
  if ← s.isAbsent? v then return none else return some (← read? v)

/-- Strings by style, of which the last for a style counts. -/
def styles? (s : Settings ν) (v : ν) : Option (List (Style × String)) := do
  let ms ← (← s.choices? v).mapM fun (k, v) => do return (← Style.ofKey? k, ← s.text? v)
  return Style.all.filterMap fun style => (ms.reverse.lookup style).map (style, ·)

end Settings

/-- Of members with one name the last counts, and an empty array is an empty object. -/
def Json.settingMembers? : Json.Document → Option (List (String × Json.Document))
  | .object ms => some (Keyed.byArrival ms)
  | .array [] => some []
  | _ => none

/-- Settings as a JSON document gives them. -/
def Json.settings : Settings Json.Document where
  text?
    | .string t => some t
    | _ => none
  flag?
    | .bool b => some b
    | _ => none
  count?
    | .number (.integer n) => if 0 ≤ n ∧ n ≤ Settings.maxCount then some n.toNat else none
    | _ => none
  isAbsent?
    | .null => some true
    | _ => some false
  fields? := settingMembers?
  choices? := settingMembers?

namespace Options

def fields : List String :=
  ["output_template", "use_utc_timestamp", "max_destructuring_depth", "max_string_length",
    "max_collection_count", "propagate_capture_errors", "theme"]

def setField? (s : Settings ν) (o : Options) (name : String) (v : ν) : Option Options :=
  match name with
  | "output_template" => (s.text? v).map fun t => { o with outputTemplate := t }
  | "use_utc_timestamp" => (s.flag? v).map fun b => { o with universalTime := b }
  | "max_destructuring_depth" => (s.count? v).map fun n => { o with depth := n }
  | "max_string_length" => (s.optional? s.count? v).map fun n => { o with textLength := n }
  | "max_collection_count" => (s.optional? s.count? v).map fun n => { o with itemCount := n }
  | "propagate_capture_errors" => (s.flag? v).map fun b => { o with strict := b }
  | "theme" => (s.optional? s.styles? v).map fun t => { o with theme := t }
  | _ => some o

/-- No field may be given twice. -/
def read? (s : Settings ν) (v : ν) : Option Options := do
  let ms ← s.fields? v
  guard (fields.all fun name => ms.countP (·.1 == name) ≤ 1)
  ms.foldlM (fun o (name, v) => o.setField? s name v) {}

end Options

end StructuredLog
