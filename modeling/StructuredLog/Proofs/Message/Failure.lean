import StructuredLog.Proofs.Message.Themed
import StructuredLog.Proofs.Value.Failure

/-!
Messages on a sink that fails. Every style that has been set is reset, unless the refused character
stands in a span of an aligned property that was put together before it was written: then nothing is
written after the character, and so not the reset either.
-/

namespace StructuredLog

open Fragment Piece

/-! ### Tokens -/

/-- An alignment is given, and the property is there. -/
def Token.isPadded (props : PropertyMap) : Token → Bool
  | .text _ => false
  | .placeholder p => p.alignment.isSome && props.contains p.name

section Messages

variable {theme : Theme} {c : Char} {flags : MessageFlags} {provider : Provider}
  {props : PropertyMap}

theorem Token.allFlat_of_not_padded {token : Token} (plain : token.isPadded props = false) :
    AllFlat (token.messagePieces flags provider props) := by
  cases token with
  | text s => exact (allFlat_cons _ _).mpr ⟨trivial, allFlat_nil⟩
  | placeholder p =>
    cases found : props.get? p.name with
    | none =>
      simp only [messagePieces, found]
      exact (allFlat_cons _ _).mpr ⟨trivial, allFlat_nil⟩
    | some v =>
      cases alignment : p.alignment with
      | none =>
        simp only [messagePieces, found, alignment, align]
        exact v.allFlat_messagePieces flags provider p.format
      | some a => simp [isPadded, PropertyMap.contains, alignment, found] at plain

theorem Token.aligned_of_padded {token : Token} (padded : token.isPadded props = true) :
    ∃ a body, token.messagePieces flags provider props = [.aligned a body] := by
  cases token with
  | text s => contradiction
  | placeholder p =>
    rw [isPadded, Bool.and_eq_true, Option.isSome_iff_exists] at padded
    obtain ⟨⟨a, alignment⟩, present⟩ := padded
    obtain ⟨v, found⟩ := Option.isSome_iff_exists.mp present
    refine ⟨a, v.messagePieces flags provider p.format, ?_⟩
    simp only [messagePieces, found, alignment, align]

variable (theme c flags provider props)

def Token.fragments (token : Token) : List Fragment :=
  fragmentsAll theme (token.messagePieces flags provider props)

/-- What a sink that refuses `c` has of a token. -/
def Token.left (token : Token) : List Fragment :=
  let taken := upTo c (token.fragments theme flags provider props)
  if theme.canBuffer && token.isPadded props then taken else close taken

variable {theme c flags provider props}

theorem Token.spans (token : Token) : Spans (token.fragments theme flags provider props) :=
  spans_fragmentsAll theme _

theorem Token.left_of_takes {token : Token} (taken : Sink.takes (some c)
    (seen theme (token.fragments theme flags provider props)) = true) :
    token.left theme c flags provider props = token.fragments theme flags provider props := by
  simp only [left, upTo_of_takes taken, token.spans.close_eq, ite_self]

theorem Token.leaves (quiet : theme.Quiet c) (token : Token) :
    Writer.Leaves theme c (writeAll theme (token.messagePieces flags provider props))
      (token.fragments theme flags provider props) (token.left theme c flags provider props) := by
  unfold left fragments
  dsimp only
  split
  · next buffered =>
    rw [Bool.and_eq_true] at buffered
    obtain ⟨a, body, group⟩ :
        ∃ a body, token.messagePieces flags provider props = [.aligned a body] :=
      aligned_of_padded buffered.2
    rw [group]
    exact leaves_buffered quiet buffered.1 a body
  · next straight =>
    apply stops_writeAll quiet
    intro p mem
    rw [Bool.and_eq_true, not_and_or, Bool.not_eq_true, Bool.not_eq_true] at straight
    cases straight with
    | inl unbuffered => exact direct_of_unbuffered unbuffered p
    | inr plain => exact (allFlat_of_not_padded plain p mem).direct theme

/-- Whether what is left of a token has all its styles reset. -/
theorem Token.closed_left (token : Token) :
    Closed theme (token.left theme c flags provider props) ↔
      (theme.canBuffer = true → token.isPadded props = true →
        ∀ style ∈ openAtEnd (upTo c (token.fragments theme flags provider props)),
          theme.escape style = "") := by
  unfold left
  dsimp only
  split
  · next buffered =>
    rw [Bool.and_eq_true] at buffered
    rw [token.spans.closed_upTo]
    simp only [buffered, true_imp_iff]
  · next straight =>
    rw [Bool.and_eq_true, not_and] at straight
    constructor
    · intro _ buffers padded
      exact (straight buffers padded).elim
    · intro _
      exact (token.spans.close_upTo c).closed theme

/-! ### Messages -/

/-- A message that fails leaves the tokens before some token as they are, and that one up to the
refused character. All that the theme has set is reset, unless the theme puts the token's property
together before it is written and a style is set where the refused character stands. -/
theorem Template.failed_message_closed_iff (quiet : theme.Quiet c) (template : Template)
    (before : String)
    (failed : (template.themedWriter flags theme provider props ⟨some c, before⟩).2 = none) :
    ∃ done token rest, template.tokens = done ++ token :: rest ∧
      let complete := done.flatMap (Token.fragments theme flags provider props)
      let taken := upTo c (token.fragments theme flags provider props)
      let left := complete ++ token.left theme c flags provider props
      c ∉ (seen theme complete).toList ∧
      c ∈ (seen theme (token.fragments theme flags provider props)).toList ∧
      (template.themedWriter flags theme provider props ⟨some c, before⟩).1.received =
        before ++ textAll theme left ∧
      (Closed theme left ↔ (theme.canBuffer = true → token.isPadded props = true →
        ∀ style ∈ openAtEnd taken, theme.escape style = "")) := by
  have written := template.writes_messagePieces flags theme provider props
  rw [written.snd_eq_none_iff] at failed
  rw [written.fst_eq]
  obtain ⟨done, token, rest, split, shown, stopped, received⟩ :=
    writeAll_flatMap_of_failed (Token.leaves quiet) (fun _ => Token.left_of_takes) failed
  have complete : fragmentsAll theme (done.flatMap (Token.messagePieces flags provider props)) =
      done.flatMap (Token.fragments theme flags provider props) := by
    rw [fragmentsAll_eq_flatMap, List.flatMap_assoc]
    apply List.flatMap_congr
    intro token _
    exact (fragmentsAll_eq_flatMap theme _).symm
  have spans := spans_fragmentsAll theme (done.flatMap (Token.messagePieces flags provider props))
  rw [complete] at shown received spans
  refine ⟨done, token, rest, split, Sink.takes_some.mp shown, Sink.takes_some_eq_false.mp stopped,
    received, ?_⟩
  rw [spans.closed_append]
  exact token.closed_left

end Messages

theorem Template.unaligned_failed_message_closed :
    let theme := Theme.ansi [(.string, "\x1b[36m")]
    let template := Template.parse "user \x7bA\x7d left"
    let props := PropertyMap.ofList [("A", .scalar (.string "x!"))]
    let written := template.themedWriter ⟨false, false⟩ theme .none props ⟨some '!', ""⟩
    theme.Quiet '!' ∧ written = (⟨some '!', "user \x1b[0m\x1b[36m\"x\x1b[0m"⟩, none) ∧
      ∃ left, written.1.received = Fragment.textAll theme left ∧ Closed theme left := by
  intro theme template props written
  have result : written = (⟨some '!', "user \x1b[0m\x1b[36m\"x\x1b[0m"⟩, none) := by
    decide +kernel
  have failed : (template.themedWriter ⟨false, false⟩ theme .none props ⟨some '!', ""⟩).2 = none :=
    congrArg Prod.snd result
  have plain : ∀ token ∈ template.tokens, token.isPadded props = false := by decide +kernel
  have quiet : theme.Quiet '!' := Theme.quiet_ansi (by decide) (by decide)
  refine ⟨quiet, result, ?_⟩
  obtain ⟨done, token, rest, split, -, -, received, closed⟩ :=
    template.failed_message_closed_iff quiet "" failed
  refine ⟨_, received.trans String.empty_append, closed.mpr ?_⟩
  intro _ padded
  have mem : token ∈ template.tokens := by simp [split]
  rw [plain token mem] at padded
  contradiction

/-- An aligned property is left in its style by a theme that can buffer, and reset by the same theme
otherwise. -/
theorem Template.aligned_failed_message_open :
    let theme := Theme.ansi [(.string, "\x1b[36m")]
    let template := Template.parse "\x7bA,6\x7d"
    let props := PropertyMap.ofList [("A", .scalar (.string "x!"))]
    let written (theme : Theme) :=
      template.themedWriter ⟨false, false⟩ theme .none props ⟨some '!', ""⟩
    theme.Quiet '!' ∧
      written theme = (⟨some '!', "  \x1b[36m\"x"⟩, none) ∧
      "  \x1b[36m\"x" = "  " ++ theme.escape .string ++ "\"x" ∧
      ¬ theme.reset.toList <:+: "  \x1b[36m\"x".toList ∧
      written theme.unbuffered = (⟨some '!', "  \x1b[36m\"x\x1b[0m"⟩, none) := by
  intro theme template props written
  have quiet : theme.Quiet '!' := Theme.quiet_ansi (by decide) (by decide)
  exact ⟨quiet, by decide +kernel, by decide +kernel, by decide +kernel, by decide +kernel⟩

end StructuredLog
