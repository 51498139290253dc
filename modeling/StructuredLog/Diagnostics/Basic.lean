/-!
What the library reports about itself. Capture and rendering degrade instead of failing; each
degradation is a diagnostic.
-/

namespace StructuredLog

inductive Diagnostic where
  /-- Placeholders with argument numbers and with names in one template. -/
  | mixedTemplate (text : String)
  | depthReached
  | accessorFailed (property error : String)
  | accessorUnsupported (property typeName : String)
  | indexerSkipped (property typeName : String)
  | note (text : String)
  deriving DecidableEq, Repr

def Diagnostic.message : Diagnostic → String
  | mixedTemplate text => "Message template is malformed: " ++ text
  | depthReached => "Maximum destructuring depth reached."
  | accessorFailed property error =>
    "The property accessor " ++ property ++ " threw exception: " ++ error
  | accessorUnsupported property typeName =>
    "The property accessor " ++ property ++ " on " ++ typeName ++ " is not supported"
  | indexerSkipped property typeName =>
    "The property " ++ property ++ " on " ++ typeName ++ " is an indexer and was skipped"
  | note text => text

end StructuredLog
