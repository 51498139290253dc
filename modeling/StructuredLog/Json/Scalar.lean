import StructuredLog.Json.Quoted
import StructuredLog.Scalar.Format

/-!
Scalars as JSON literals. Numbers without a JSON literal, characters and durations are strings.
-/

namespace StructuredLog

def Decimal.Decoded.json : Decimal.Decoded → String
  | .finite b => b.text
  | d => Json.quoted d.text

def Scalar.json : Scalar → String
  | .null => "null"
  | .bool b => if b then "true" else "false"
  | .integer n => n.text
  | .f32 bits => (Decimal.Decoded.ofBits32 bits).json
  | .f64 bits => (Decimal.Decoded.ofBits64 bits).json
  | .zoned t => "\"" ++ Calendar.zonedText t ++ "\""
  | .clock t => "\"" ++ Calendar.localText t ++ "\""
  | .date d => "\"" ++ Calendar.dateText d ++ "\""
  | .time t => "\"" ++ Calendar.timeText t ++ "\""
  | s => Json.quoted s.text

end StructuredLog
