import StructuredLog.Proofs.Line.Themed

/-!
Output without styling on a sink that fails. It is there up to the first character that the sink
refuses, and nothing is written after that.
-/

namespace StructuredLog

open Piece Writer

/-! ### Lines without a theme -/

theorem delivers_line (line : Template) (e : Event) (provider : Provider) :
    Delivers (line.lineWriter e provider Theme.plain)
      (styledAll Theme.plain (line.linePieces e provider true)) := by
  intro k
  rw [line.writes_linePieces e provider Theme.plain k]
  exact delivers_pieces _ k

/-! ### Failing sinks -/

/-- Where no character is refused the writer writes `full`. It fails on a sink that refuses `c` just
if `full` has this character, and then the sink has what stands before the first one. -/
def Writer.StopsAt (w : Writer) (c : Char) (full : String) : Prop :=
  ∀ before,
    w ⟨none, before⟩ = (⟨none, before ++ full⟩, true) ∧
    ((w ⟨some c, before⟩).2 = false ↔ c ∈ full.toList) ∧
    (w ⟨some c, before⟩).1.received = before ++ String.ofList (full.toList.takeWhile (· != c))

theorem Writer.Delivers.stopsAt {w : Writer} {full : String} (delivers : Delivers w full)
    (c : Char) : w.StopsAt c full := by
  intro before
  rw [delivers, delivers]
  exact ⟨Sink.write_none before full, Sink.takes_some_eq_false, rfl⟩

/-- No unthemed output goes on after a failure: plain values, JSON, messages, event lines, padded
texts and whole lines stop at the first character that the sink refuses. -/
theorem unthemed_stopsAt (c : Char) (provider : Provider) (format : Option String)
    (flags : MessageFlags) (tagName : String) (v : Value) (template line : Template)
    (props : PropertyMap) (e : Event) (a : Option Alignment) (s : String) :
    (v.writer provider format).StopsAt c (v.text provider format) ∧
    (v.jsonWriter tagName).StopsAt c (v.json tagName) ∧
    (template.messageWriter flags provider props).StopsAt c
      (String.join (template.message flags provider props)) ∧
    (e.compactWriter tagName).StopsAt c (e.compact tagName) ∧
    (padded a s).StopsAt c ((a.map (·.pad s)).getD s) ∧
    (line.lineWriter e provider Theme.plain).StopsAt c
      (styledAll Theme.plain (line.linePieces e provider true)) := by
  refine ⟨?_, ?_, ?_, ?_, ?_, ?_⟩
  · exact (delivers_value provider format v).stopsAt c
  · exact (delivers_json tagName v).stopsAt c
  · exact (delivers_message template flags provider props).stopsAt c
  · exact (delivers_compact e tagName).stopsAt c
  · exact (delivers_padded a s).stopsAt c
  · exact (delivers_line line e provider).stopsAt c

end StructuredLog
