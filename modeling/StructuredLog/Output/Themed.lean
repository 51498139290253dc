import StructuredLog.Json.Writer
import StructuredLog.Output.Counting
import StructuredLog.Output.Json
import StructuredLog.Value.Writer

/-!
Writing values for a themed line, part by part. The text of a span may take more than one write. The
sequences around each span are counted as they are written.
-/

namespace StructuredLog

open CountingWriter
open Writer (put)

namespace Theme

/-- A span around what its body writes. Once it is open the reset is written even if the body has
failed. -/
def spanned (t : Theme) (style : Style) (body : Writer) : CountingWriter :=
  (counted (t.escape style).length (put (t.escape style))).andThen <|
    counted t.reset.length fun k =>
      let (k, taken) := body k
      let (k, closed) := k.write t.reset
      (k, taken && closed)

def marked (t : Theme) (s : String) : CountingWriter := t.spanned .tertiaryText (put s)

end Theme

def Scalar.displayWriter (theme : Theme) (provider : Provider) (format : Option String)
    (s : Scalar) : CountingWriter :=
  match s with
  | .null => theme.spanned .null (put "null")
  | .string t => theme.spanned .string (if format = some "l" then put t else Json.quotedWriter t)
  | .integer _ | .f32 _ | .f64 _ => theme.spanned .number (s.writer format provider)
  | .bool b => theme.spanned .boolean (put (if b then "true" else "false"))
  | .char c =>
    theme.spanned .scalar (Writer.inOrder [put "\x27", put (String.singleton c), put "\x27"])
  | s => theme.spanned .scalar (s.writer format provider)

mutual

def Value.displayWriter (theme : Theme) (provider : Provider) (format : Option String) :
    Value → CountingWriter
  | .scalar s => s.displayWriter theme provider format
  | .sequence items =>
    inOrder [
      theme.marked "[",
      separated (theme.marked ", ") (itemDisplayWriters theme provider format items),
      theme.marked "]"]
  | .record tag members =>
    inOrder [
      (tag.map fun t => inOrder [theme.spanned .name (put t), counted 0 (put " ")]).getD
        (inOrder []),
      theme.marked "\x7b",
      separated (theme.marked ", ") (memberDisplayWriters theme provider members),
      theme.marked "\x7d"]
  | .dictionary entries =>
    inOrder [
      theme.marked "\x7b",
      separated (theme.marked ", ") (entryDisplayWriters theme provider entries),
      theme.marked "\x7d"]

def itemDisplayWriters (theme : Theme) (provider : Provider) (format : Option String) :
    List Value → List CountingWriter
  | [] => []
  | v :: vs =>
    v.displayWriter theme provider format :: itemDisplayWriters theme provider format vs

def memberDisplayWriters (theme : Theme) (provider : Provider) :
    List (String × Value) → List CountingWriter
  | [] => []
  | (name, v) :: ms =>
    inOrder [theme.spanned .name (put name), theme.marked "=",
      v.displayWriter theme provider none] :: memberDisplayWriters theme provider ms

def entryDisplayWriters (theme : Theme) (provider : Provider) :
    List (Scalar × Value) → List CountingWriter
  | [] => []
  | (key, v) :: es =>
    inOrder [theme.marked "[", key.displayWriter theme provider none, theme.marked "]=",
      v.displayWriter theme provider none] :: entryDisplayWriters theme provider es

end

/-! ### JSON -/

def Scalar.themedJsonWriter (theme : Theme) (s : Scalar) : CountingWriter :=
  theme.spanned s.jsonStyle s.jsonWriter

def Theme.jsonName (theme : Theme) (style : Style) (name : String)
    (item : CountingWriter) : CountingWriter :=
  inOrder [theme.spanned style (Json.quotedWriter name), theme.marked ": ", item]

mutual

def Value.themedJsonWriter (theme : Theme) : Value → CountingWriter
  | .scalar s => s.themedJsonWriter theme
  | .sequence items =>
    inOrder [
      theme.marked "[",
      separated (theme.marked ", ") (itemThemedJsonWriters theme items),
      theme.marked "]"]
  | .record tag members =>
    inOrder [
      theme.marked "\x7b",
      separated (theme.marked ", ") (memberThemedJsonWriters theme members ++
        (tag.map fun t => theme.jsonName .name Json.messageTagName
          (theme.spanned .string (Json.quotedWriter t))).toList),
      theme.marked "\x7d"]
  | .dictionary entries =>
    inOrder [
      theme.marked "\x7b",
      separated (theme.marked ", ") (entryThemedJsonWriters theme entries),
      theme.marked "\x7d"]

def itemThemedJsonWriters (theme : Theme) : List Value → List CountingWriter
  | [] => []
  | v :: vs => v.themedJsonWriter theme :: itemThemedJsonWriters theme vs

def memberThemedJsonWriters (theme : Theme) : List (String × Value) → List CountingWriter
  | [] => []
  | (name, v) :: ms =>
    theme.jsonName .name name (v.themedJsonWriter theme) :: memberThemedJsonWriters theme ms

def entryThemedJsonWriters (theme : Theme) : List (Scalar × Value) → List CountingWriter
  | [] => []
  | (key, v) :: es =>
    theme.jsonName key.keyStyle key.text (v.themedJsonWriter theme) ::
      entryThemedJsonWriters theme es

end

/-- A value in one of the forms, as its pieces are. -/
def Value.themedWriter (form : ValueForm) (theme : Theme) (provider : Provider)
    (format : Option String) (literal : Bool) (v : Value) : CountingWriter :=
  match form, v with
  | .display, v => v.displayWriter theme provider format
  | .json, .scalar s =>
    if literal then s.displayWriter theme provider format else s.themedJsonWriter theme
  | .json, v => v.themedJsonWriter theme

end StructuredLog
