import Mathlib
import StructuredLog.Line.Writer

/-!
What becomes of an event's properties in a line. The remaining properties are told by the names that
the two templates mention, and what a placeholder shows by whether its name is reserved. The two
agree on every name but one that is reserved: a line with a message and the remaining properties
shows each property of its event, unless the property has the name of a part that the line shows and
the message does not mention it.
-/

namespace StructuredLog

namespace Piece

/-- The pieces of `own` stand one after the other among other pieces or inside an aligned group. -/
inductive Within (own : List Piece) : List Piece → Prop where
  | among (before after : List Piece) : Within own (before ++ own ++ after)
  | aligned {a : Alignment} {body : List Piece} (before after : List Piece) :
      Within own body → Within own (before ++ .aligned a body :: after)

namespace Within

variable {own ps : List Piece}

theorem refl (own : List Piece) : Within own own := by
  have whole : Within own ([] ++ own ++ []) := among [] []
  rwa [List.nil_append, List.append_nil] at whole

theorem append (within : Within own ps) (before after : List Piece) :
    Within own (before ++ ps ++ after) := by
  cases within with
  | among before' after' =>
    have moved : Within own ((before ++ before') ++ own ++ (after' ++ after)) := among _ _
    simpa only [List.append_assoc] using moved
  | @aligned a body before' after' inside =>
    have moved : Within own ((before ++ before') ++ .aligned a body :: (after' ++ after)) :=
      aligned _ _ inside
    simpa only [List.append_assoc, List.cons_append] using moved

theorem align (within : Within own ps) (a : Option Alignment) : Within own (Piece.align a ps) := by
  cases a with
  | none => exact within
  | some a => exact aligned [] [] within

theorem flatMap {f : α → List Piece} {x : α} {xs : List α} (mem : x ∈ xs)
    (within : Within own (f x)) : Within own (xs.flatMap f) := by
  obtain ⟨before, after, rfl⟩ := List.append_of_mem mem
  rw [List.flatMap_append, List.flatMap_cons, ← List.append_assoc]
  exact within.append _ _

theorem commaSeparated {groups : List (List Piece)} (mem : own ∈ groups) :
    Within own (commaSeparated groups) := by
  induction groups with
  | nil => exact absurd mem List.not_mem_nil
  | cons g groups ih =>
    cases groups with
    | nil =>
      obtain rfl := List.mem_singleton.mp mem
      rw [StructuredLog.commaSeparated, List.intercalate_singleton]
      exact refl own
    | cons g' groups =>
      rw [StructuredLog.commaSeparated, List.intercalate_cons_cons]
      rcases List.mem_cons.mp mem with rfl | later
      · have first := (refl own).append [] ([mark ", "] ++ [mark ", "].intercalate (g' :: groups))
        simpa only [List.nil_append, List.append_assoc] using first
      · have rest := (ih later).append (g ++ [mark ", "]) []
        rw [List.append_nil] at rest
        exact rest

end Within

end Piece

open Piece

/-! ### Members of a record -/

/-- The pieces of one member of a record. -/
def memberPieces (form : ValueForm) (provider : Provider) (member : String × Value) : List Piece :=
  match form with
  | .display => .span .name member.1 :: mark "=" :: member.2.display provider none
  | .json => jsonName .name member.1 member.2.jsonPieces

theorem memberDisplays_eq (provider : Provider) (members : List (String × Value)) :
    memberDisplays provider members = members.map (memberPieces .display provider) := by
  induction members with
  | nil => rfl
  | cons member members ih => rw [memberDisplays, ih, List.map_cons]; rfl

theorem memberJsonPieces_eq (provider : Provider) (members : List (String × Value)) :
    memberJsonPieces members = members.map (memberPieces .json provider) := by
  induction members with
  | nil => rfl
  | cons member members ih => rw [memberJsonPieces, ih, List.map_cons]; rfl

theorem record_pieces (form : ValueForm) (provider : Provider) (members : List (String × Value)) :
    (Value.record none members).pieces form provider none false =
      [mark "\x7b"] ++ commaSeparated (members.map (memberPieces form provider)) ++
        [mark "\x7d"] := by
  cases form with
  | display =>
    rw [Value.pieces, Value.display, memberDisplays_eq]
    rfl
  | json =>
    have plain : (Value.record none members).pieces .json provider none false =
        (Value.record none members).jsonPieces := rfl
    rw [plain, Value.jsonPieces, memberJsonPieces_eq provider]
    simp

theorem within_record_pieces {members : List (String × Value)} {member : String × Value}
    (mem : member ∈ members) (form : ValueForm) (provider : Provider) :
    Within (memberPieces form provider member)
      ((Value.record none members).pieces form provider none false) := by
  rw [record_pieces]
  apply Within.append
  apply Within.commaSeparated
  exact List.mem_map_of_mem mem

/-! ### Names -/

/-- The names that stand for parts of an event. -/
def LinePart.reservedNames : List String :=
  ["Message", "Level", "Timestamp", "NewLine", "Exception", "Properties"]

theorem LinePart.ofName_eq_property_iff {name looked : String} :
    ofName name = .property looked ↔ name ∉ reservedNames ∧ name = looked := by
  unfold ofName
  split
  case h_7 noMessage noLevel noTimestamp noNewLine noException noProperties =>
    simp_all [reservedNames]
  all_goals simp [reservedNames]

theorem Template.mentions_iff {t : Template} {name : String} :
    t.mentions name = true ↔ ∃ p, .placeholder p ∈ t.tokens ∧ p.name = name := by
  simp only [mentions, placeholders, List.any_eq_true, List.mem_filterMap, beq_iff_eq]
  constructor
  · rintro ⟨p, ⟨token, mem, eq⟩, named⟩
    cases token with
    | text s => contradiction
    | placeholder q =>
      obtain rfl := Option.some.inj eq
      exact ⟨q, mem, named⟩
  · rintro ⟨p, mem, named⟩
    exact ⟨p, ⟨.placeholder p, mem, rfl⟩, named⟩

/-! ### Properties in a line -/

namespace Line

section Shown

variable (line : Template) (e : Event) (provider : Provider) (name : String) (v : Value)

/-- A token of a line shows a property, in pieces of the property's own: as a placeholder of the
message, by looking its name up, or as a member of the remaining properties. -/
inductive Shows : Token → List Piece → Prop where
  | inMessage {p q : Placeholder} :
      LinePart.ofName p.name = .message → .placeholder q ∈ e.template.tokens → q.name = name →
      Shows (.placeholder p)
        (Piece.align q.alignment (v.messagePieces (.ofFormat p.format) provider q.format))
  | lookedUp {p : Placeholder} :
      LinePart.ofName p.name = .property name →
      Shows (.placeholder p)
        [.span .secondaryText (padded p.alignment (propertyText provider p.format v))]
  | member {p : Placeholder} :
      LinePart.ofName p.name = .properties → (name, v) ∈ remaining line e →
      Shows (.placeholder p) (memberPieces (MessageFlags.ofFormat p.format).form provider (name, v))

variable {line e provider name v}

/-- What a token is said to show is among its pieces. -/
theorem Shows.within {token : Token} {own : List Piece}
    (shown : Shows line e provider name v token own) (held : (name, v) ∈ e.properties.entries)
    (canBuffer : Bool) : Within own (tokenPieces line e provider canBuffer token) := by
  have found := PropertyMap.get?_of_mem held
  unfold tokenPieces
  cases shown with
  | @inMessage p q part mem named =>
    simp only [placeholderPieces, part]
    apply Within.align
    apply Within.flatMap mem
    simp only [Token.messagePieces, named, found]
    exact Within.refl _
  | lookedUp part =>
    simp only [placeholderPieces, part, found]
    exact Within.refl _
  | @member p part mem =>
    have within := within_record_pieces mem (MessageFlags.ofFormat p.format).form provider
    simp only [placeholderPieces, part]
    split
    · exact within.align _
    · exact within

theorem mem_remaining_iff :
    (name, v) ∈ remaining line e ↔
      (name, v) ∈ e.properties.entries ∧ e.template.mentions name = false ∧
        line.mentions name = false := by
  simp [remaining]

theorem not_shown {token : Token} {own : List Piece} (reserved : name ∈ LinePart.reservedNames)
    (inLine : line.mentions name = true) (notInMessage : e.template.mentions name = false) :
    ¬Shows line e provider name v token own := by
  intro shown
  cases shown with
  | inMessage _ mem named =>
    rw [Template.mentions_iff.mpr ⟨_, mem, named⟩] at notInMessage
    contradiction
  | lookedUp part =>
    obtain ⟨free, named⟩ := LinePart.ofName_eq_property_iff.mp part
    exact free (named ▸ reserved)
  | member _ mem =>
    rw [(mem_remaining_iff.mp mem).2.2] at inLine
    contradiction

end Shown

end Line

open Line

/-- A line with a message and the remaining properties shows a property of its event, unless the
property has the name of a part that the line shows and the message does not mention it. Whatever
shows it has the property's own pieces among the pieces that are written. -/
theorem Template.property_shown_iff (line : Template) (e : Event) (provider : Provider)
    (canBuffer : Bool) {name : String} {v : Value} (held : (name, v) ∈ e.properties.entries)
    (message : ∃ p, .placeholder p ∈ line.tokens ∧ LinePart.ofName p.name = .message)
    (properties : ∃ p, .placeholder p ∈ line.tokens ∧ LinePart.ofName p.name = .properties) :
    ((∃ token ∈ line.tokens, ∃ own, Shows line e provider name v token own) ↔
      ¬(name ∈ LinePart.reservedNames ∧ line.mentions name = true ∧
        e.template.mentions name = false)) ∧
    ∀ token ∈ line.tokens, ∀ own, Shows line e provider name v token own →
      Within own (tokenPieces line e provider canBuffer token) := by
  refine ⟨⟨?_, ?_⟩, fun token _ own shown => shown.within held canBuffer⟩
  · rintro ⟨token, -, own, shown⟩ ⟨reserved, inLine, notInMessage⟩
    exact not_shown reserved inLine notInMessage shown
  · intro kept
    cases inMessage : e.template.mentions name with
    | true =>
      obtain ⟨p, mem, part⟩ := message
      obtain ⟨q, inTemplate, named⟩ := mentions_iff.mp inMessage
      exact ⟨_, mem, _, .inMessage part inTemplate named⟩
    | false =>
      cases inLine : line.mentions name with
      | true =>
        obtain ⟨p, mem, named⟩ := mentions_iff.mp inLine
        have free : name ∉ LinePart.reservedNames := fun reserved =>
          kept ⟨reserved, inLine, inMessage⟩
        have part : LinePart.ofName p.name = .property name :=
          LinePart.ofName_eq_property_iff.mpr ⟨named ▸ free, named⟩
        exact ⟨_, mem, _, .lookedUp part⟩
      | false =>
        obtain ⟨p, mem, part⟩ := properties
        exact ⟨_, mem, _, .member part (mem_remaining_iff.mpr ⟨held, inMessage, inLine⟩)⟩

theorem Template.level_property_shown :
    let line := Template.parse "\x7bLevel\x7d \x7bMessage\x7d \x7bProperties,12:j\x7d"
    let event : Event :=
      ⟨⟨⟨⟨2024, 3, 9, by decide⟩, ⟨14, 5, 7, 0, by decide⟩⟩, .utc⟩, .debug, none,
      Template.parse "at \x7bLevel\x7d",
        .ofList [("Level", .scalar (.bool true)), ("A", .scalar .null)]⟩
    (("Level", .scalar (.bool true)) ∈ event.properties.entries ∧
      (∃ p, .placeholder p ∈ line.tokens ∧ LinePart.ofName p.name = .message) ∧
      ∃ p, .placeholder p ∈ line.tokens ∧ LinePart.ofName p.name = .properties) ∧
    ∃ token ∈ line.tokens, ∃ own,
      Shows line event .none "Level" (.scalar (.bool true)) token own := by
  intro line event
  have held : ("Level", .scalar (.bool true)) ∈ event.properties.entries := List.mem_cons_self
  have message : ∃ p, .placeholder p ∈ line.tokens ∧ LinePart.ofName p.name = .message :=
    ⟨⟨"Message", "\x7bMessage\x7d", none, none, .default⟩, by decide +kernel, rfl⟩
  have properties : ∃ p, .placeholder p ∈ line.tokens ∧ LinePart.ofName p.name = .properties :=
    ⟨⟨"Properties", "\x7bProperties,12:j\x7d", some "j", some ⟨.right, 12, by decide⟩, .default⟩,
      by decide +kernel, rfl⟩
  have mentioned : event.template.mentions "Level" = true := by decide +kernel
  refine ⟨⟨held, message, properties⟩, ?_⟩
  apply (line.property_shown_iff event .none true held message properties).1.mpr
  rintro ⟨-, -, notInMessage⟩
  rw [mentioned] at notInMessage
  contradiction

/-- A property with the name of a part of the line is in no part of it. -/
theorem Template.message_property_dropped :
    let line := Template.parse "\x7bMessage\x7d|\x7bProperties\x7d"
    let event : Event :=
      ⟨⟨⟨⟨2024, 3, 9, by decide⟩, ⟨14, 5, 7, 0, by decide⟩⟩, .utc⟩, .debug, none,
      Template.parse "disk",
        .ofList [("Message", .scalar (.bool true))]⟩
    ("Message", .scalar (.bool true)) ∈ event.properties.entries ∧
      line.lineWriter event .none Theme.plain ⟨none, ""⟩ = (⟨none, "disk|\x7b\x7d"⟩, true) ∧
      ¬∃ token ∈ line.tokens, ∃ own,
        Shows line event .none "Message" (.scalar (.bool true)) token own := by
  intro line event
  have reserved : "Message" ∈ LinePart.reservedNames := List.mem_cons_self
  have inLine : line.mentions "Message" = true := by decide +kernel
  have notInMessage : event.template.mentions "Message" = false := by decide +kernel
  refine ⟨List.mem_cons_self, by decide +kernel, ?_⟩
  rintro ⟨token, -, own, shown⟩
  exact not_shown reserved inLine notInMessage shown

end StructuredLog
