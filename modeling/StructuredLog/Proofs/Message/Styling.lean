import StructuredLog.Message.Pieces
import StructuredLog.Proofs.Message.Themed

/-!
Styling and alignment of messages. Values hold no alignment of their own, however deeply they are
nested, so that only a placeholder's own alignment has to make room for what is invisible.
-/

namespace StructuredLog

namespace Piece

/-- Not an aligned group. -/
def Flat : Piece → Prop
  | .aligned _ _ => False
  | _ => True

def AllFlat (ps : List Piece) : Prop := ∀ p ∈ ps, p.Flat

@[simp] theorem flat_plain (s : String) : (plain s).Flat := trivial

@[simp] theorem flat_span (style : Style) (s : String) : (span style s).Flat := trivial

@[simp] theorem allFlat_nil : AllFlat [] := by simp [AllFlat]

@[simp] theorem allFlat_cons (p : Piece) (ps : List Piece) :
    AllFlat (p :: ps) ↔ p.Flat ∧ AllFlat ps := by
  simp [AllFlat]

@[simp] theorem allFlat_append (ps qs : List Piece) :
    AllFlat (ps ++ qs) ↔ AllFlat ps ∧ AllFlat qs := by
  simp only [AllFlat, List.mem_append, or_imp, forall_and]

theorem AllFlat.fitsAll {ps : List Piece} (flat : AllFlat ps) (t : Theme) : FitsAll t ps := by
  rw [fitsAll_iff]
  intro p mem
  cases p with
  | plain s => trivial
  | span style s => trivial
  | aligned a body => exact (flat _ mem).elim

end Piece

open Piece

@[simp] theorem flat_mark (s : String) : (mark s).Flat := trivial

theorem allFlat_commaSeparated {groups : List (List Piece)} (flat : ∀ g ∈ groups, AllFlat g) :
    AllFlat (commaSeparated groups) := by
  induction groups with
  | nil => exact allFlat_nil
  | cons g groups ih =>
    have rest := ih fun g mem => flat g (by simp [mem])
    cases groups with
    | nil => simpa [commaSeparated] using flat g
    | cons g' groups =>
      have first := flat g (by simp)
      rw [commaSeparated, List.intercalate_cons_cons, List.append_assoc]
      exact (allFlat_append _ _).mpr ⟨first, (allFlat_cons _ _).mpr ⟨flat_mark _, rest⟩⟩

/-! ### Values -/

theorem Scalar.flat_display (provider : Provider) (format : Option String) (s : Scalar) :
    (s.display provider format).Flat := by
  unfold display
  split <;> trivial

mutual

theorem Value.allFlat_display (provider : Provider) :
    ∀ (format : Option String) (v : Value), AllFlat (v.display provider format)
  | format, .scalar s => by simp [Value.display, s.flat_display]
  | format, .sequence items => by
    have flat := allFlat_commaSeparated (itemDisplays_flat provider format items)
    simp [Value.display, flat]
  | format, .record tag members => by
    have flat := allFlat_commaSeparated (memberDisplays_flat provider members)
    cases tag <;> simp [Value.display, flat]
  | format, .dictionary entries => by
    have flat := allFlat_commaSeparated (entryDisplays_flat provider entries)
    simp [Value.display, flat]

theorem itemDisplays_flat (provider : Provider) :
    ∀ (format : Option String) (vs : List Value),
      ∀ g ∈ itemDisplays provider format vs, AllFlat g
  | format, [] => by simp [itemDisplays]
  | format, v :: vs => by
    simp only [itemDisplays, List.forall_mem_cons]
    exact ⟨v.allFlat_display provider format, itemDisplays_flat provider format vs⟩

theorem memberDisplays_flat (provider : Provider) :
    ∀ (ms : List (String × Value)), ∀ g ∈ memberDisplays provider ms, AllFlat g
  | [] => by simp [memberDisplays]
  | (name, v) :: ms => by
    simp only [memberDisplays, List.forall_mem_cons]
    exact ⟨by simp [v.allFlat_display provider none], memberDisplays_flat provider ms⟩

theorem entryDisplays_flat (provider : Provider) :
    ∀ (es : List (Scalar × Value)), ∀ g ∈ entryDisplays provider es, AllFlat g
  | [] => by simp [entryDisplays]
  | (key, v) :: es => by
    simp only [entryDisplays, List.forall_mem_cons]
    exact ⟨by simp [key.flat_display, v.allFlat_display provider none],
      entryDisplays_flat provider es⟩

end

theorem allFlat_jsonName {item : List Piece} (style : Style) (name : String)
    (flat : AllFlat item) : AllFlat (jsonName style name item) := by
  simp [jsonName, flat]

mutual

theorem Value.allFlat_jsonPieces : ∀ v : Value, AllFlat v.jsonPieces
  | .scalar s => by simp [Value.jsonPieces]
  | .sequence items => by
    have flat := allFlat_commaSeparated (itemJsonPieces_flat items)
    simp [Value.jsonPieces, flat]
  | .record tag members => by
    have tagged : ∀ g ∈ memberJsonPieces members ++
        (tag.map fun t => jsonName .name Json.messageTagName
          [.span .string (Json.quoted t)]).toList, AllFlat g := by
      intro g mem
      rcases List.mem_append.mp mem with member | tagMember
      · exact memberJsonPieces_flat members g member
      · simp only [Option.mem_toList, Option.map_eq_some_iff] at tagMember
        obtain ⟨t, -, rfl⟩ := tagMember
        exact allFlat_jsonName _ _ (by simp)
    have flat := allFlat_commaSeparated tagged
    simp [Value.jsonPieces, flat]
  | .dictionary entries => by
    have flat := allFlat_commaSeparated (entryJsonPieces_flat entries)
    simp [Value.jsonPieces, flat]

theorem itemJsonPieces_flat : ∀ (vs : List Value), ∀ g ∈ itemJsonPieces vs, AllFlat g
  | [] => by simp [itemJsonPieces]
  | v :: vs => by
    simp only [itemJsonPieces, List.forall_mem_cons]
    exact ⟨v.allFlat_jsonPieces, itemJsonPieces_flat vs⟩

theorem memberJsonPieces_flat :
    ∀ (ms : List (String × Value)), ∀ g ∈ memberJsonPieces ms, AllFlat g
  | [] => by simp [memberJsonPieces]
  | (name, v) :: ms => by
    simp only [memberJsonPieces, List.forall_mem_cons]
    exact ⟨allFlat_jsonName _ _ v.allFlat_jsonPieces, memberJsonPieces_flat ms⟩

theorem entryJsonPieces_flat :
    ∀ (es : List (Scalar × Value)), ∀ g ∈ entryJsonPieces es, AllFlat g
  | [] => by simp [entryJsonPieces]
  | (key, v) :: es => by
    simp only [entryJsonPieces, List.forall_mem_cons]
    exact ⟨allFlat_jsonName _ _ v.allFlat_jsonPieces, entryJsonPieces_flat es⟩

end

theorem Value.allFlat_pieces (form : ValueForm) (provider : Provider) (format : Option String)
    (literal : Bool) (v : Value) : AllFlat (v.pieces form provider format literal) := by
  unfold pieces
  split
  · exact allFlat_display provider format _
  · split
    · simp [Scalar.flat_display]
    · exact allFlat_jsonPieces _
  · exact allFlat_jsonPieces _

theorem Value.allFlat_messagePieces (flags : MessageFlags) (provider : Provider)
    (format : Option String) (v : Value) : AllFlat (v.messagePieces flags provider format) := by
  unfold messagePieces
  split
  · simp
  · exact allFlat_pieces _ _ _ _ _

/-! ### Messages -/

section Messages

variable (theme : Theme) (flags : MessageFlags) (provider : Provider) (props : PropertyMap)

/-- The width of an aligned property can be widened by what is invisible of it. -/
def Token.Fits : Token → Prop
  | .text _ => True
  | .placeholder p => ∀ a ∈ p.alignment, ∀ v ∈ props.get? p.name,
      a.width + invisibleAll theme (v.messagePieces flags provider p.format) ≤
        Alignment.maxWidth

instance : (token : Token) → Decidable (token.Fits theme flags provider props)
  | .text _ => inferInstanceAs (Decidable True)
  | .placeholder p => inferInstanceAs (Decidable (∀ a ∈ p.alignment, ∀ v ∈ props.get? p.name,
      a.width + invisibleAll theme (v.messagePieces flags provider p.format) ≤
        Alignment.maxWidth))

variable {theme flags provider props}

theorem Token.Fits.fitsAll {token : Token} (fits : token.Fits theme flags provider props) :
    FitsAll theme (token.messagePieces flags provider props) := by
  cases token with
  | text s => exact ⟨trivial, trivial⟩
  | placeholder p =>
    cases found : props.get? p.name with
    | none =>
      simp only [messagePieces, found]
      exact ⟨trivial, trivial⟩
    | some v =>
      have flat := (v.allFlat_messagePieces flags provider p.format).fitsAll theme
      cases alignment : p.alignment with
      | none =>
        simp only [messagePieces, found, alignment, align]
        exact flat
      | some a =>
        simp only [messagePieces, found, alignment, align]
        exact ⟨⟨fits a alignment v found, flat⟩, trivial⟩

theorem Template.fitsAll_messagePieces {template : Template}
    (fits : ∀ token ∈ template.tokens, token.Fits theme flags provider props) :
    FitsAll theme (template.messagePieces flags provider props) := by
  rw [fitsAll_iff]
  intro piece mem
  obtain ⟨token, inTemplate, inToken⟩ := List.mem_flatMap.mp mem
  exact (fitsAll_iff theme _).mp (fits token inTemplate).fitsAll piece inToken

/-- An aligned property is seen as it is without its alignment, with spaces on the other side. -/
theorem Token.seen_aligned {p : Placeholder} {a : Alignment} {v : Value}
    (fits : (Token.placeholder p).Fits theme flags provider props)
    (alignment : p.alignment = some a) (found : props.get? p.name = some v) :
    Fragment.seen theme
        (fragmentsAll theme ((Token.placeholder p).messagePieces flags provider props)) =
      a.pad (visibleAll (v.messagePieces flags provider p.format)) := by
  rw [seen_fragmentsAll theme _ fits.fitsAll]
  simp [messagePieces, found, alignment, align, visibleAll, visible]

theorem Token.seen_unaligned {p : Placeholder} {v : Value} (found : props.get? p.name = some v) :
    Fragment.seen theme (fragmentsAll theme
        ((Token.placeholder { p with alignment := none }).messagePieces flags provider props)) =
      visibleAll (v.messagePieces flags provider p.format) := by
  have flat := (v.allFlat_messagePieces flags provider p.format).fitsAll theme
  simp only [messagePieces, found, align]
  exact seen_fragmentsAll theme _ flat

/-- A theme adds its sets and resets to a message and nothing else, and the count that the writer
gives back is the number of characters they have written. Deleted, they leave the message without a
theme, in which every aligned property has its width of visible characters. -/
theorem Template.styling_keeps_text (template : Template) (before : String)
    (fits : ∀ token ∈ template.tokens, token.Fits theme flags provider props) :
    let write (t : Theme) := template.themedWriter flags t provider props ⟨none, before⟩
    let fragmentsOf (token : Token) := fragmentsAll theme (token.messagePieces flags provider props)
    let fragments := template.tokens.flatMap fragmentsOf
    write theme = (⟨none, before ++ Fragment.textAll theme fragments⟩,
      some (Fragment.unseen theme fragments).length) ∧
    write Theme.plain = (⟨none, before ++ Fragment.seen theme fragments⟩, some 0) ∧
    (∀ token, token.themedWriter flags theme provider props ⟨none, before⟩ =
      (⟨none, before ++ Fragment.textAll theme (fragmentsOf token)⟩,
        some (Fragment.unseen theme (fragmentsOf token)).length)) ∧
    ∀ p a, .placeholder p ∈ template.tokens → p.alignment = some a →
      props.contains p.name = true →
      let seenOf (p : Placeholder) := Fragment.seen theme (fragmentsOf (.placeholder p))
      let unaligned := seenOf { p with alignment := none }
      seenOf p = a.side.pad (a.width - unaligned.length) unaligned ∧
        (seenOf p).length = max a.width unaligned.length := by
  intro write fragmentsOf fragments
  have whole : fragments = fragmentsAll theme (template.messagePieces flags provider props) := by
    simp only [fragments, fragmentsOf, fragmentsAll_eq_flatMap, messagePieces, List.flatMap_assoc]
  have writes (t : Theme) := template.writes_messagePieces flags t provider props
  refine ⟨?_, ?_, ?_, ?_⟩
  · rw [whole, textAll_fragmentsAll, length_unseen_fragmentsAll]
    exact (writes theme).write_none before
  · rw [whole, seen_fragmentsAll theme _ (template.fitsAll_messagePieces fits), ← styledAll_plain,
      ← invisibleAll_plain (template.messagePieces flags provider props)]
    exact (writes Theme.plain).write_none before
  · intro token
    rw [textAll_fragmentsAll, length_unseen_fragmentsAll]
    exact (token.writes_messagePieces flags theme provider props).write_none before
  · intro p a mem alignment present seenOf unaligned
    obtain ⟨v, found⟩ := Option.isSome_iff_exists.mp present
    have body : unaligned = visibleAll (v.messagePieces flags provider p.format) :=
      Token.seen_unaligned found
    have padded : seenOf p = a.pad unaligned := by
      rw [body]
      exact Token.seen_aligned (fits _ mem) alignment found
    refine ⟨padded, ?_⟩
    rw [padded, Alignment.length_pad, Nat.max_comm]

end Messages

theorem Template.padded_ansi_message :
    let theme := Theme.ansi [(.string, "\x1b[36m")]
    let template := Template.parse "Hi \x7bUser,-8\x7d!"
    let props := PropertyMap.ofList [("User", .scalar (.string "ada"))]
    let write (t : Theme) := template.themedWriter ⟨true, false⟩ t .none props ⟨none, ""⟩
    (∀ token ∈ template.tokens, token.Fits theme ⟨true, false⟩ .none props) ∧
      write theme = (⟨none, "Hi \x1b[0m\x1b[36mada\x1b[0m     !\x1b[0m"⟩, some 17) ∧
      write Theme.plain = (⟨none, "Hi ada     !"⟩, some 0) := by
  intro theme template props write
  have fits : ∀ token ∈ template.tokens, token.Fits theme ⟨true, false⟩ .none props := by
    decide +kernel
  obtain ⟨themed, unthemed, -⟩ := template.styling_keeps_text "" fits
  exact ⟨fits, themed.trans (by decide +kernel), unthemed.trans (by decide +kernel)⟩

end StructuredLog
