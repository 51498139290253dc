import StructuredLog.Json.Value
import StructuredLog.Output.Writer

/-!
Writing values as compact JSON, part by part.
-/

namespace StructuredLog

open Writer

namespace Json

/-- Runs of characters that stand for themselves, and the escapes between them. The characters that
are kept back are the run so far, last first. -/
def escapedWriters (kept : List Char) : List Char → List Writer
  | [] => [put (String.ofList kept.reverse)]
  | c :: cs =>
    if escape c = [c] then escapedWriters (c :: kept) cs
    else
      put (String.ofList kept.reverse) :: put (String.ofList (escape c)) :: escapedWriters [] cs

def quotedWriter (s : String) : Writer :=
  inOrder [put "\"", inOrder (escapedWriters [] s.toList), put "\""]

/-- A text with nothing to escape in it. -/
def betweenQuotes (s : String) : Writer := inOrder [put "\"", put s, put "\""]

end Json

def Decimal.Decoded.jsonWriter : Decimal.Decoded → Writer
  | .finite b => put b.text
  | d => Json.quotedWriter d.text

def Scalar.jsonWriter : Scalar → Writer
  | .null => put "null"
  | .bool b => put (if b then "true" else "false")
  | .integer n => put n.text
  | .f32 bits => (Decimal.Decoded.ofBits32 bits).jsonWriter
  | .f64 bits => (Decimal.Decoded.ofBits64 bits).jsonWriter
  | .zoned t => Json.betweenQuotes (Calendar.zonedText t)
  | .clock t => Json.betweenQuotes (Calendar.localText t)
  | .date d => Json.betweenQuotes (Calendar.dateText d)
  | .time t => Json.betweenQuotes (Calendar.timeText t)
  | s => Json.quotedWriter s.text

/-- The parts of a member, given the writer of its value. -/
def Json.memberWriter (name : String) (item : Writer) : Writer :=
  inOrder [quotedWriter name, put ":", item]

mutual

def Value.jsonWriter (tagName : String) : Value → Writer
  | .scalar s => s.jsonWriter
  | .sequence items =>
    inOrder [put "[", separated (put ",") (itemJsonWriters tagName items), put "]"]
  | .record tag members =>
    inOrder [
      put "\x7b",
      separated (put ",") (memberJsonWriters tagName members ++
        (tag.map fun t => Json.memberWriter tagName (Json.quotedWriter t)).toList),
      put "\x7d"]
  | .dictionary entries =>
    inOrder [put "\x7b", separated (put ",") (entryJsonWriters tagName entries), put "\x7d"]

def itemJsonWriters (tagName : String) : List Value → List Writer
  | [] => []
  | v :: vs => v.jsonWriter tagName :: itemJsonWriters tagName vs

def memberJsonWriters (tagName : String) : List (String × Value) → List Writer
  | [] => []
  | (name, v) :: ms => Json.memberWriter name (v.jsonWriter tagName) :: memberJsonWriters tagName ms

def entryJsonWriters (tagName : String) : List (Scalar × Value) → List Writer
  | [] => []
  | (key, v) :: es =>
    Json.memberWriter key.text (v.jsonWriter tagName) :: entryJsonWriters tagName es

end

end StructuredLog
