import StructuredLog.Text.Hex

/-!
The text of captured bytes: two digits for each, or for long data the digits of its start and its
length.
-/

namespace StructuredLog.Capture

/-- Longer data is abbreviated. -/
def maxBytes : Nat := 1024

def abbreviatedBytes : Nat := 16

def hexText (data : List UInt8) : String := String.ofList (data.flatMap Text.hexByte)

def bytesText (data : List UInt8) : String :=
  if data.length ≤ maxBytes then hexText data
  else hexText (data.take abbreviatedBytes) ++ "... (" ++ toString data.length ++ " bytes)"

end StructuredLog.Capture
