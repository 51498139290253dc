import StructuredLog.Output.Sink
import StructuredLog.Theme.Style

/-!
A theme gives every style an escape sequence. A styled span is the escape, the text and the reset
sequence; the first and the last take no room on screen and are counted as invisible.
-/

namespace StructuredLog

structure Theme where
  escape? : Style → Option String
  reset : String
  /-- Styled text may be put together and measured before it is written. -/
  canBuffer : Bool

namespace Theme

/-- No styling at all. -/
def plain : Theme := ⟨fun _ => none, "", true⟩

def ansiReset : String := "\x1b[0m"

/-- Adds or replaces the escape sequence of one style. -/
def set (t : Theme) (s : Style) (escape : String) : Theme :=
  { t with escape? := fun s' => if s' = s then some escape else t.escape? s' }

/-- Raw escape sequences, of which the last for a style counts. The reset follows every span, also
where its style has none. -/
def ansi (escapes : List (Style × String)) : Theme :=
  escapes.foldl (fun t (s, e) => t.set s e) ⟨fun _ => none, ansiReset, true⟩

def unbuffered (t : Theme) : Theme := { t with canBuffer := false }

/-- The sequence that opens a span, empty for a style without one. -/
def escape (t : Theme) (s : Style) : String := (t.escape? s).getD ""

@[simp] theorem escape_plain (s : Style) : plain.escape s = "" := rfl

@[simp] theorem reset_plain : plain.reset = "" := rfl

/-- Characters of a span in style `s` that are not its text. -/
def overhead (t : Theme) (s : Style) : Nat := (t.escape s).length + t.reset.length

/-- Writes one span. Once it is open the reset is written even if the text was not taken. -/
def writeSpan (t : Theme) (s : Style) (text : String) (k : Sink) : Sink × Bool :=
  Sink.andThen (k.write (t.escape s)) fun k =>
    let (k, taken) := k.write text
    let (k, closed) := k.write t.reset
    (k, taken && closed)

end Theme

end StructuredLog
