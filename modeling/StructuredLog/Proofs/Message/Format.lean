import StructuredLog.Proofs.Message.Styling
import StructuredLog.Proofs.Message.Themed
import StructuredLog.Template.Basic

/-!
Placeholders with a format of their own under the flag for JSON. A plain message decides at each
placeholder, so that JSON gives way to the format. A themed message decides once for all values, and
its JSON has no use for a format: only scalars that are to be literal are still displayed.
-/

namespace StructuredLog

open Piece Writer

/-- A text in the width that a placeholder asks for. -/
def Placeholder.padded (p : Placeholder) (s : String) : String :=
  (p.alignment.map (·.pad s)).getD s

/-- Scalars under the flag for literals, which are displayed in either form. -/
def Value.IsLiteral (literal : Bool) (v : Value) : Prop := literal = true ∧ v.scalar?.isSome = true

/-! ### Values at a placeholder -/

section Values

variable (provider : Provider) (format : String)

theorem Value.inMessageWriter_own_format (literal json : Bool) (v : Value) :
    v.inMessageWriter ⟨literal, json⟩ provider (some format) =
      v.inMessageWriter ⟨literal, false⟩ provider (some format) := by
  unfold inMessageWriter
  simp only [Option.isNone_some, Bool.and_false]

variable {literal : Bool} {v : Value}

theorem Value.IsLiteral.messagePieces_eq (displayed : v.IsLiteral literal) (json : Bool)
    (format : Option String) :
    v.messagePieces ⟨literal, json⟩ provider format =
      v.messagePieces ⟨literal, false⟩ provider format := by
  obtain ⟨rfl, isScalar⟩ := displayed
  cases v with
  | scalar s => cases s <;> cases json <;> rfl
  | _ => contradiction

/-- Other values are written in the form that the flags ask for, whatever the placeholder says. -/
theorem Value.messagePieces_of_not_literal (notLiteral : ¬v.IsLiteral literal) (json : Bool)
    (format : Option String) :
    v.messagePieces ⟨literal, json⟩ provider format =
      if json then v.jsonPieces else v.display provider format := by
  cases v with
  | scalar s =>
    cases literal with
    | true => exact absurd ⟨rfl, rfl⟩ notLiteral
    | false => cases json <;> rfl
  | _ => cases literal <;> cases json <;> rfl

end Values

/-! ### Placeholders -/

section Placeholders

variable {p : Placeholder} {v : Value} {props : PropertyMap}

theorem Token.visible_placeholder (found : props.get? p.name = some v) (flags : MessageFlags)
    (provider : Provider) :
    visibleAll ((Token.placeholder p).messagePieces flags provider props) =
      p.padded (visibleAll (v.messagePieces flags provider p.format)) := by
  rw [messagePieces, found, Placeholder.padded]
  cases p.alignment with
  | none => rfl
  | some a => simp [align, visibleAll, visible]

/-- In a plain message the flag for JSON makes no difference to a placeholder with a format of its
own. In a themed one it does: values that are not literal scalars are written as JSON all the same,
which leaves the message as it is only where the JSON happens to be what the format gives. -/
theorem Token.own_format_under_json {format : String} (found : props.get? p.name = some v)
    (own : p.format = some format) (literal : Bool) (provider : Provider) :
    let plain (json : Bool) :=
      (Token.placeholder p).inMessageWriter ⟨literal, json⟩ provider props
    let themed (json : Bool) :=
      (Token.placeholder p).themedWriter ⟨literal, json⟩ Theme.plain provider props
    let asJson := p.padded (visibleAll v.jsonPieces)
    let asFormatted := p.padded (visibleAll (v.display provider (some format)))
    plain true = plain false ∧
    (v.IsLiteral literal → themed true = themed false) ∧
    (¬v.IsLiteral literal →
      Delivers (themed true).uncounted asJson ∧ Delivers (themed false).uncounted asFormatted ∧
      (themed true = themed false ↔ asJson = asFormatted)) := by
  intro plain themed asJson asFormatted
  have written (json : Bool) :=
    Token.writes_messagePieces ⟨literal, json⟩ Theme.plain provider props (.placeholder p)
  have shown (json : Bool) := Token.visible_placeholder found ⟨literal, json⟩ provider
  refine ⟨?_, ?_, ?_⟩
  · simp only [plain, inMessageWriter, found, own]
    rw [Value.inMessageWriter_own_format]
  · intro displayed
    rw [(written true).plain_eq_iff (written false), shown, shown, displayed.messagePieces_eq]
  · intro notLiteral
    have json := shown true
    rw [Value.messagePieces_of_not_literal provider notLiteral, if_pos rfl] at json
    have formatted := shown false
    rw [Value.messagePieces_of_not_literal provider notLiteral, if_neg Bool.false_ne_true,
      own] at formatted
    simp only [asJson, asFormatted, ← json, ← formatted]
    exact ⟨(written true).uncounted.delivers, (written false).uncounted.delivers,
      (written true).plain_eq_iff (written false)⟩

end Placeholders

theorem Token.hex_under_json :
    let p : Placeholder := ⟨"N", "\x7bN,6:X\x7d", some "X", some ⟨.right, 6, by decide⟩, .default⟩
    let v := Value.scalar (.integer ⟨.i64, 255, by decide⟩)
    let props := PropertyMap.ofList [("N", v)]
    let plain (json : Bool) := (Token.placeholder p).inMessageWriter ⟨false, json⟩ .none props
    let themed (json : Bool) :=
      (Token.placeholder p).themedWriter ⟨false, json⟩ Theme.plain .none props
    props.get? p.name = some v ∧ p.format = some "X" ∧ ¬v.IsLiteral false ∧
      plain true = plain false ∧ themed true ≠ themed false := by
  intro p v props plain themed
  have found : props.get? p.name = some v := rfl
  have notLiteral : ¬v.IsLiteral false := fun displayed => absurd displayed.1 (by decide)
  obtain ⟨same, -, other⟩ := Token.own_format_under_json found rfl false .none
  refine ⟨found, rfl, notLiteral, same, ?_⟩
  intro eq
  exact absurd ((other notLiteral).2.2.mp eq) (by decide +kernel)

theorem Template.themed_json_drops_format :
    let template := Template.parse "\x7bN:X\x7d"
    let props := PropertyMap.ofList [("N", .scalar (.integer ⟨.i64, 255, by decide⟩))]
    let plain (flags : MessageFlags) := (template.messageWriter flags .none props {}).1.received
    let themed (flags : MessageFlags) :=
      (template.themedWriter flags Theme.plain .none props {}).1.received
    template.tokens = [.placeholder ⟨"N", "\x7bN:X\x7d", some "X", none, .default⟩] ∧
      plain ⟨false, false⟩ = "FF" ∧ plain ⟨false, true⟩ = "FF" ∧
      themed ⟨false, false⟩ = "FF" ∧ themed ⟨false, true⟩ = "255" ∧
      themed ⟨true, false⟩ = "FF" ∧ themed ⟨true, true⟩ = "FF" := by
  decide +kernel

end StructuredLog
