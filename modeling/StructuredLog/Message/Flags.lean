/-!
The letters of a message format: `l` writes strings without quotes, `j` writes values as JSON.
-/

namespace StructuredLog

structure MessageFlags where
  literal : Bool
  json : Bool
  deriving DecidableEq, Repr

/-- Letters count wherever they stand, all others mean nothing. -/
def MessageFlags.ofFormat (format : Option String) : MessageFlags :=
  let cs := (format.getD "").toList
  ⟨cs.contains 'l', cs.contains 'j'⟩

end StructuredLog
