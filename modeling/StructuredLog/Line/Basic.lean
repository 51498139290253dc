import StructuredLog.Event.Basic
import StructuredLog.Message.Pieces
import StructuredLog.Text.Split
import StructuredLog.Value.Text

/-!
Output lines. An output template is a message template whose placeholders name parts of an event;
a name that is not reserved is looked up among the event's properties.
-/

namespace StructuredLog

/-- The part of an event that a name in an output template refers to. -/
inductive LinePart where
  | message
  | level
  | timestamp
  | newLine
  | exception
  | properties
  | property (name : String)
  deriving DecidableEq, Repr

def LinePart.ofName : String → LinePart
  | "Message" => .message
  | "Level" => .level
  | "Timestamp" => .timestamp
  | "NewLine" => .newLine
  | "Exception" => .exception
  | "Properties" => .properties
  | name => .property name

def Level.style : Level → Style
  | .verbose => .levelVerbose
  | .debug => .levelDebug
  | .information => .levelInformation
  | .warning => .levelWarning
  | .error => .levelError
  | .fatal => .levelFatal

def defaultTimestampFormat : String := "%Y-%m-%d %H:%M:%S%.3f %:z"

namespace Line

def padded (a : Option Alignment) (s : String) : String := (a.map (·.pad s)).getD s

/-- Lines end at a newline, with a carriage return before it or not; a last empty line is none. -/
def splitLines (s : String) : List String :=
  let fields := Text.split '\n' s.toList
  let ended := fields.dropLast.map fun l => if l.getLast? = some '\r' then l.dropLast else l
  let last := fields.getLast?.getD []
  (ended ++ if last.isEmpty then [] else [last]).map String.ofList

/-- Lines that start with three spaces are details. -/
def exceptionPieces (x : Exception) : List Piece :=
  (splitLines x.fullText).flatMap fun l =>
    let style : Style := if l.toList.take 3 = [' ', ' ', ' '] then .secondaryText else .text
    [.span style l, .plain "\n"]

def timestampText (e : Event) (provider : Provider) (format : Option String) : String :=
  let t := Scalar.zoned e.timestamp
  (provider format t).getD (t.formatted (some (format.getD defaultTimestampFormat)))

/-- The properties that neither the message nor the line mentions. -/
def remaining (line : Template) (e : Event) : List (String × Value) :=
  e.properties.entries.filter fun (name, _) => !e.template.mentions name && !line.mentions name

/-- Strings take a change of case, other values their format. -/
def propertyText (provider : Provider) (format : Option String) : Value → String
  | .scalar (.string s) => applyCase format s
  | v => v.text provider format

/-- The pieces of one placeholder. The remaining properties are aligned only by a theme that can
buffer; levels, timestamps and single properties have their padding inside their span. -/
def placeholderPieces (line : Template) (e : Event) (provider : Provider) (canBuffer : Bool)
    (p : Placeholder) : List Piece :=
  match LinePart.ofName p.name with
  | .level => [.span e.level.style (padded p.alignment (e.level.moniker p.format))]
  | .newLine => [.plain (padded (p.alignment.map (·.widen 1)) "\n")]
  | .exception => (e.exception.map exceptionPieces).getD []
  | .message =>
    Piece.align p.alignment
      (e.template.messagePieces (.ofFormat p.format) provider e.properties)
  | .timestamp => [.span .secondaryText (padded p.alignment (timestampText e provider p.format))]
  | .properties =>
    let flags := MessageFlags.ofFormat p.format
    let body := (Value.record none (remaining line e)).pieces flags.form provider none false
    if canBuffer then Piece.align p.alignment body else body
  | .property name =>
    match e.properties.get? name with
    | none => [.plain (padded p.alignment "")]
    | some v => [.span .secondaryText (padded p.alignment (propertyText provider p.format v))]

def tokenPieces (line : Template) (e : Event) (provider : Provider) (canBuffer : Bool) :
    Token → List Piece
  | .text s => [.span .tertiaryText s]
  | .placeholder p => placeholderPieces line e provider canBuffer p

end Line

/-- The line of an event under an output template. -/
def Template.linePieces (line : Template) (e : Event) (provider : Provider) (canBuffer : Bool) :
    List Piece :=
  line.tokens.flatMap (Line.tokenPieces line e provider canBuffer)

def defaultOutputTemplate : String :=
  "[\x7bTimestamp:HH:mm:ss\x7d \x7bLevel:u3\x7d] \x7bMessage:lj\x7d\x7bNewLine\x7d\x7bException\x7d"

end StructuredLog
