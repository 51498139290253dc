import StructuredLog.Yaml.Scalar.Basic
import StructuredLog.Yaml.Tag

/-!
Tokens of YAML texts: what is written, and where block collections and their keys begin and end,
which indentation and colons tell.
-/

namespace StructuredLog.Yaml

inductive Token where
  | version (major minor : Nat)
  | handle (handle meaning : String)
  | documentStart
  | documentEnd
  | blockSequence
  | blockMapping
  | blockEnd
  | openSequence
  | closeSequence
  | openMapping
  | closeMapping
  | dash
  | comma
  | key
  | value
  | alias (name : String)
  | anchor (name : String)
  | tag (tag : Tag)
  | scalar (scalar : Scalar)
  deriving DecidableEq, Repr

end StructuredLog.Yaml
