import StructuredLog.Capture.Converter

/-!
A converter in one line: its limits, how many policies it has, and whether it is strict.
-/

namespace StructuredLog.Capture

/-- Written where there is no bound. -/
def noBound : Nat := 0xffffffffffffffff

namespace Converter

def textLength (c : Converter α) : Nat := c.limits.textLength.getD noBound

def itemCount (c : Converter α) : Nat := c.limits.itemCount.getD noBound

/-- Scalars as they are, variants, and bytes that lie in arrays or in shared memory. -/
def builtinScalarRules : Nat := 4

/-- Functions and types have rules of their own, after all policies. -/
def builtinDestructuringRules : Nat := 2

def fields (c : Converter α) : List (String × String) :=
  [("max_depth", toString c.limits.depth),
   ("max_string_length", toString c.textLength),
   ("max_collection_count", toString c.itemCount),
   ("scalar_policies", toString builtinScalarRules),
   ("destructuring_policies", toString (c.policies.length + builtinDestructuringRules)),
   ("propagate_errors", if c.strict then "true" else "false")]

def summary (c : Converter α) : String :=
  "PropertyValueConverter \x7b " ++
    ", ".intercalate (c.fields.map fun (name, v) => name ++ ": " ++ v) ++ " \x7d"

end Converter

end StructuredLog.Capture
