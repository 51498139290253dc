import StructuredLog.Output.Writer
import StructuredLog.Text.Split
import StructuredLog.Value.Text

/-!
Writing the plain text of scalars and values, part by part.
-/

namespace StructuredLog

open Writer

/-- The runs between quotes, and an escaped quote between any two of them. -/
def quotedPlainWriter (s : String) : Writer :=
  let runs := (Text.split '"' s.toList).map fun run => put (String.ofList run)
  inOrder [put "\"", separated (put "\\\"") runs, put "\""]

def Duration.writer (d : Duration) : Writer :=
  let days := d.seconds / 86400
  let ticks := d.nanos / 100
  inOrder [
    if days = 0 then inOrder [] else put (toString days ++ "."),
    put (Calendar.two (d.seconds % 86400 / 3600) ++ ":" ++
      Calendar.two (d.seconds % 3600 / 60) ++ ":" ++ Calendar.two (d.seconds % 60)),
    if ticks = 0 then inOrder [] else put ("." ++ Text.padded 7 ticks)]

namespace Scalar

def textWriter : Scalar → Writer
  | .duration d => d.writer
  | s => put s.text

/-- A format is tried before anything is written. -/
def formattedWriter (s : Scalar) (format : Option String) : Writer :=
  match format.bind s.format? with
  | some t => put t
  | none => s.textWriter

def writer (s : Scalar) (format : Option String) (provider : Provider) : Writer :=
  match s with
  | .null => put "null"
  | .string t => if format = some "l" then put t else quotedPlainWriter t
  | s =>
    match provider format s with
    | some t => put t
    | none => s.formattedWriter format

end Scalar

mutual

def Value.writer (provider : Provider) (format : Option String) : Value → Writer
  | .scalar s => s.writer format provider
  | .sequence items =>
    inOrder [put "[", separated (put ", ") (itemWriters provider format items), put "]"]
  | .record tag members =>
    inOrder [
      (tag.map fun t => inOrder [put t, put " "]).getD (inOrder []),
      put "\x7b ", separated (put ", ") (memberWriters provider members), put " \x7d"]
  | .dictionary entries =>
    inOrder [put "[", separated (put ", ") (entryWriters provider entries), put "]"]

def itemWriters (provider : Provider) (format : Option String) : List Value → List Writer
  | [] => []
  | v :: vs => v.writer provider format :: itemWriters provider format vs

def memberWriters (provider : Provider) : List (String × Value) → List Writer
  | [] => []
  | (name, v) :: ms =>
    inOrder [put name, put ": ", v.writer provider none] :: memberWriters provider ms

def entryWriters (provider : Provider) : List (Scalar × Value) → List Writer
  | [] => []
  | (key, v) :: es =>
    inOrder [put "(", key.writer none provider, put ": ", v.writer provider none, put ")"] ::
      entryWriters provider es

end

end StructuredLog
