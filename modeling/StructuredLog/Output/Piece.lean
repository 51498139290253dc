import StructuredLog.Text.Alignment
import StructuredLog.Theme.Basic

/-!
Output before it is styled: plain text, spans in a style, and aligned groups of these. A theme turns
pieces into writes. An aligned group is padded by what is visible of it: a theme that can buffer
writes it as one text, any other measures it first and writes the padding beside it.
-/

namespace StructuredLog

inductive Piece where
  | plain (text : String)
  | span (style : Style) (text : String)
  | aligned (alignment : Alignment) (body : List Piece)

namespace Piece

mutual

/-- What is seen of a piece. -/
def visible : Piece → String
  | .plain s => s
  | .span _ s => s
  | .aligned a body => a.pad (visibleAll body)

def visibleAll : List Piece → String
  | [] => ""
  | p :: ps => p.visible ++ visibleAll ps

end

mutual

/-- Number of characters that styling adds. -/
def invisible (t : Theme) : Piece → Nat
  | .plain _ => 0
  | .span style _ => t.overhead style
  | .aligned _ body => invisibleAll t body

def invisibleAll (t : Theme) : List Piece → Nat
  | [] => 0
  | p :: ps => p.invisible t + invisibleAll t ps

end

mutual

/-- The whole text of a piece under a theme. -/
def styled (t : Theme) : Piece → String
  | .plain s => s
  | .span style s => t.escape style ++ s ++ t.reset
  | .aligned a body =>
    if t.canBuffer then (a.widen (invisibleAll t body)).pad (styledAll t body)
    else a.side.pad (a.width - (visibleAll body).length) (styledAll t body)

def styledAll (t : Theme) : List Piece → String
  | [] => ""
  | p :: ps => p.styled t ++ styledAll t ps

end

mutual

/-- Writes a piece, stopping at the first failure. -/
def write (t : Theme) : Piece → Sink → Sink × Bool
  | .plain s, k => k.write s
  | .span style s, k => t.writeSpan style s k
  | .aligned a body, k =>
    if t.canBuffer then k.write ((a.widen (invisibleAll t body)).pad (styledAll t body))
    else
      let gap := spaces (a.width - (visibleAll body).length)
      match a.side with
      | .left => Sink.andThen (writeAll t body k) (·.write gap)
      | .right => Sink.andThen (k.write gap) (writeAll t body)

def writeAll (t : Theme) : List Piece → Sink → Sink × Bool
  | [], k => (k, true)
  | p :: ps, k => Sink.andThen (p.write t k) (writeAll t ps)

end

/-- Aligned only where an alignment is given. -/
def align (a : Option Alignment) (body : List Piece) : List Piece :=
  match a with
  | some a => [.aligned a body]
  | none => body

end Piece

end StructuredLog
