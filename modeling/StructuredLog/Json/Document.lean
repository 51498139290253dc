/-!
JSON documents. A number written without a fraction and an exponent is an integer; any other keeps
its exact decimal value. Object members keep their order.
-/

namespace StructuredLog.Json

/-- `decimal` stands for `mantissa * 10 ^ exponent` with a sign, so that `-0` is told from `0`. -/
inductive Number where
  | integer (n : Int)
  | decimal (negative : Bool) (mantissa : Nat) (exponent : Int)
  deriving DecidableEq, Repr

inductive Document where
  | null
  | bool (b : Bool)
  | number (n : Number)
  | string (s : String)
  | array (items : List Document)
  | object (members : List (String × Document))

end StructuredLog.Json
