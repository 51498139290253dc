import StructuredLog.Capture.Subject
import StructuredLog.Json.Magnitude
import StructuredLog.Keyed

/-!
JSON documents as values of a host. Objects are standard maps whose keys are texts, in ascending
order; integers are scalars of 64 bits where they fit, and all other numbers floating-point ones.
-/

namespace StructuredLog

def Json.Number.scalar (n : Json.Number) : Scalar :=
  match n with
  | .integer i =>
    match (Integer.ofInt? .i64 i).or (Integer.ofInt? .u64 i) with
    | some i => .integer i
    | none => .f64 n.float.toBits
  | .decimal _ _ _ => .f64 n.float.toBits

namespace Capture

/-- The names of the types of documents and of their keys. -/
structure DocumentTypes where
  document : String
  key : String

mutual

def Subject.ofDocument (t : DocumentTypes) : Json.Document → Subject
  | .null => .plain t.document .null
  | .bool b => .plain t.document (.scalar (.bool b))
  | .number n => .plain t.document (.scalar n.scalar)
  | .string s => .plain t.document (.text s)
  | .array items => .plain t.document (.sequence (ofItems t items))
  | .object members => .plain t.document (.map ⟨t.key, false, false⟩ true
      ((Keyed.ascending (ofMembers t members)).map fun (k, v) => (.plain t.key (.text k), v)))

def ofItems (t : DocumentTypes) : List Json.Document → List Subject
  | [] => []
  | d :: ds => .ofDocument t d :: ofItems t ds

def ofMembers (t : DocumentTypes) : List (String × Json.Document) → List (String × Subject)
  | [] => []
  | (k, d) :: ms => (k, .ofDocument t d) :: ofMembers t ms

end

end Capture

end StructuredLog
