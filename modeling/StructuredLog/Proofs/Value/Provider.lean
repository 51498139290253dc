import StructuredLog.Proofs.Message.Styling
import StructuredLog.Proofs.Output.Themed

/-!
What a provider has a say in. Whatever the provider, a value's text is the same frame around its
scalars, in the plain form and in the themed one; only what stands for a scalar may change, and it
is the provider's answer about that scalar that changes it. The themed form asks about fewer of
them.
-/

namespace StructuredLog

open Piece Writer

/-! ### The scalars of a value -/

/-- A scalar with the format in force where it is written. -/
structure Slot where
  format : Option String
  scalar : Scalar

/-- What is written for the scalar in the plain form. -/
def Slot.plain (provider : Provider) (slot : Slot) : String :=
  slot.scalar.render slot.format provider

/-- What is seen of the scalar in the themed form. -/
def Slot.themed (provider : Provider) (slot : Slot) : String :=
  (slot.scalar.display provider slot.format).visible

mutual

/-- The scalars of a value in the order of its text, keys included. A format reaches the items of a
sequence, and neither the members of a record nor the entries of a dictionary. -/
def Value.slots (format : Option String) : Value → List Slot
  | .scalar s => [⟨format, s⟩]
  | .sequence items => itemSlots format items
  | .record _ members => memberSlots members
  | .dictionary entries => entrySlots entries

def itemSlots (format : Option String) : List Value → List Slot
  | [] => []
  | v :: vs => v.slots format ++ itemSlots format vs

def memberSlots : List (String × Value) → List Slot
  | [] => []
  | (_, v) :: ms => v.slots none ++ memberSlots ms

def entrySlots : List (Scalar × Value) → List Slot
  | [] => []
  | (key, v) :: es => (⟨none, key⟩ :: v.slots none) ++ entrySlots es

end

/-! ### Frames -/

/-- A part of a text: written as it is, or left to a scalar. -/
inductive Stretch where
  | fixed (text : String)
  | slot (s : Slot)

namespace Stretch

def slot? : Stretch → Option Slot
  | .fixed _ => none
  | .slot s => some s

/-- The scalars that a frame leaves its text to, in order. -/
def slotsOf (frame : List Stretch) : List Slot := frame.filterMap slot?

def text (fills : Slot → String) : Stretch → String
  | .fixed s => s
  | .slot s => fills s

def fill (fills : Slot → String) (frame : List Stretch) : String :=
  String.join (frame.map (text fills))

variable (fills : Slot → String)

theorem slotsOf_append (frame frame' : List Stretch) :
    slotsOf (frame ++ frame') = slotsOf frame ++ slotsOf frame' := List.filterMap_append

theorem fill_singleton (stretch : Stretch) : fill fills [stretch] = stretch.text fills := by
  rw [fill, List.map_singleton, String.join_cons, String.join_nil, String.append_empty]

theorem fill_append (frame frame' : List Stretch) :
    fill fills (frame ++ frame') = fill fills frame ++ fill fills frame' := by
  rw [fill, List.map_append, String.join_append, fill, fill]

theorem slotsOf_intercalate (sep : String) (frames : List (List Stretch)) :
    slotsOf ([.fixed sep].intercalate frames) = frames.flatMap slotsOf := by
  induction frames with
  | nil => rfl
  | cons frame frames ih =>
    cases frames with
    | nil => rw [List.intercalate_singleton, List.flatMap_singleton]
    | cons frame' frames =>
      rw [List.intercalate_cons_cons, slotsOf_append, slotsOf_append, ih, List.flatMap_cons,
        List.append_assoc]
      rfl

theorem fill_intercalate (sep : String) (frames : List (List Stretch)) :
    fill fills ([.fixed sep].intercalate frames) =
      sep.intercalate (frames.map (fill fills)) := by
  induction frames with
  | nil => rfl
  | cons frame frames ih =>
    cases frames with
    | nil =>
      rw [List.intercalate_singleton, List.map_singleton, String.intercalate_singleton]
    | cons frame' frames =>
      rw [List.intercalate_cons_cons, fill_append, fill_append, fill_singleton, ih, List.map_cons,
        List.map_cons, List.map_cons, String.intercalate_cons_cons]
      rfl

end Stretch

open Stretch

/-- The text is one frame, whatever the provider, with each of the slots filled in its place. -/
def Framed (fills : Provider → Slot → String) (slots : List Slot) (text : Provider → String) :
    Prop :=
  ∃ frame, slotsOf frame = slots ∧ ∀ provider, text provider = fill (fills provider) frame

/-- Each of the texts has a frame of its own. -/
def FramedEach (fills : Provider → Slot → String) (slots : List Slot)
    (texts : Provider → List String) : Prop :=
  ∃ frames : List (List Stretch), frames.flatMap slotsOf = slots ∧
    ∀ provider, texts provider = frames.map (fill (fills provider))

section Laws

variable {fills : Provider → Slot → String} {slots slots' : List Slot}
  {text text' : Provider → String} {texts : Provider → List String}

theorem Framed.fixed (s : String) : Framed fills [] fun _ => s :=
  ⟨[.fixed s], rfl, fun provider => (fill_singleton (fills provider) (.fixed s)).symm⟩

theorem Framed.slot (s : Slot) : Framed fills [s] fun provider => fills provider s :=
  ⟨[.slot s], rfl, fun provider => (fill_singleton (fills provider) (.slot s)).symm⟩

theorem Framed.append (left : Framed fills slots text) (right : Framed fills slots' text') :
    Framed fills (slots ++ slots') fun provider => text provider ++ text' provider := by
  obtain ⟨frame, rfl, same⟩ := left
  obtain ⟨frame', rfl, same'⟩ := right
  refine ⟨frame ++ frame', slotsOf_append _ _, ?_⟩
  intro provider
  rw [fill_append, ← same, ← same']

/-- Nothing is left to a scalar in what stands before and after. -/
theorem Framed.between (opening closing : String) (body : Framed fills slots text) :
    Framed fills slots fun provider => opening ++ text provider ++ closing := by
  have whole := ((fixed opening).append body).append (fixed closing)
  rwa [List.nil_append, List.append_nil] at whole

theorem FramedEach.nil : FramedEach fills [] fun _ => [] := ⟨[], rfl, fun _ => rfl⟩

theorem FramedEach.cons (head : Framed fills slots text) (tail : FramedEach fills slots' texts) :
    FramedEach fills (slots ++ slots') fun provider => text provider :: texts provider := by
  obtain ⟨frame, rfl, same⟩ := head
  obtain ⟨frames, rfl, same'⟩ := tail
  refine ⟨frame :: frames, List.flatMap_cons, ?_⟩
  intro provider
  rw [List.map_cons, ← same, ← same']

theorem FramedEach.separated (sep : String) (each : FramedEach fills slots texts) :
    Framed fills slots fun provider => sep.intercalate (texts provider) := by
  obtain ⟨frames, rfl, same⟩ := each
  refine ⟨_, slotsOf_intercalate sep frames, ?_⟩
  intro provider
  rw [fill_intercalate, ← same]

end Laws

/-! ### The plain form -/

mutual

theorem Value.framed_text : (format : Option String) → (v : Value) →
    Framed Slot.plain (v.slots format)
      fun provider => v.text provider format
  | format, .scalar s => .slot ⟨format, s⟩
  | format, .sequence items => by
    have whole := ((framed_itemTexts format items).separated ", ").between "[" "]"
    simpa only [Value.text, Value.slots] using whole
  | format, .record tag members => by
    have whole := ((framed_memberTexts members).separated ", ").between
      ((tag.map (· ++ " ")).getD "" ++ "\x7b ") " \x7d"
    simpa only [Value.text, Value.slots] using whole
  | format, .dictionary entries => by
    have whole := ((framed_entryTexts entries).separated ", ").between "[" "]"
    simpa only [Value.text, Value.slots] using whole

theorem framed_itemTexts (format : Option String) : (vs : List Value) →
    FramedEach Slot.plain (itemSlots format vs) fun provider => itemTexts provider format vs
  | [] => .nil
  | v :: vs => .cons (v.framed_text format) (framed_itemTexts format vs)

theorem framed_memberTexts : (ms : List (String × Value)) →
    FramedEach Slot.plain (memberSlots ms) fun provider => memberTexts provider ms
  | [] => .nil
  | (name, v) :: ms => by
    have member := (v.framed_text none).between (name ++ ": ") ""
    simp only [String.append_empty] at member
    exact .cons member (framed_memberTexts ms)

theorem framed_entryTexts : (es : List (Scalar × Value)) →
    FramedEach Slot.plain (entrySlots es) fun provider => entryTexts provider es
  | [] => .nil
  | (key, v) :: es => by
    have keyText : Framed Slot.plain [⟨none, key⟩] _ := .slot ⟨none, key⟩
    have entry := (keyText.between "(" ": ").append ((v.framed_text none).between "" ")")
    simp only [String.empty_append, ← String.append_assoc] at entry
    exact .cons entry (framed_entryTexts es)

end

/-! ### The themed form -/

mutual

theorem Value.framed_display : (format : Option String) → (v : Value) →
    Framed Slot.themed (v.slots format) fun provider => visibleAll (v.display provider format)
  | format, .scalar s => by
    simp only [Value.display, visibleAll, String.append_empty]
    exact .slot ⟨format, s⟩
  | format, .sequence items => by
    have whole := ((framed_itemDisplays format items).separated ", ").between "[" "]"
    simpa only [Value.display, Value.slots, visibleAll_between] using whole
  | format, .record tag members => by
    have whole := ((framed_memberDisplays members).separated ", ").between
      (visibleAll ((tag.map fun t => [.span .name t, .plain " "]).getD []) ++ "\x7b") "\x7d"
    have seen (provider : Provider) :
        visibleAll ((Value.record tag members).display provider format) =
          visibleAll ((tag.map fun t => [.span .name t, .plain " "]).getD []) ++ "\x7b" ++
            ", ".intercalate ((memberDisplays provider members).map visibleAll) ++ "\x7d" := by
      rw [Value.display, List.append_assoc, visibleAll_append, visibleAll_between]
      simp only [String.append_assoc]
    simpa only [seen, Value.slots] using whole
  | format, .dictionary entries => by
    have whole := ((framed_entryDisplays entries).separated ", ").between "\x7b" "\x7d"
    simpa only [Value.display, Value.slots, visibleAll_between] using whole

theorem framed_itemDisplays (format : Option String) : (vs : List Value) →
    FramedEach Slot.themed (itemSlots format vs) fun provider =>
      (itemDisplays provider format vs).map visibleAll
  | [] => .nil
  | v :: vs => .cons (v.framed_display format) (framed_itemDisplays format vs)

theorem framed_memberDisplays : (ms : List (String × Value)) →
    FramedEach Slot.themed (memberSlots ms) fun provider =>
      (memberDisplays provider ms).map visibleAll
  | [] => .nil
  | (name, v) :: ms => by
    have member := (v.framed_display none).between (name ++ "=") ""
    simp only [String.append_empty, String.append_assoc] at member
    exact .cons member (framed_memberDisplays ms)

theorem framed_entryDisplays : (es : List (Scalar × Value)) →
    FramedEach Slot.themed (entrySlots es) fun provider =>
      (entryDisplays provider es).map visibleAll
  | [] => .nil
  | (key, v) :: es => by
    have keyText : Framed Slot.themed [⟨none, key⟩] _ := .slot ⟨none, key⟩
    have entry := (keyText.between "[" "]=").append (v.framed_display none)
    simp only [String.append_assoc] at entry
    exact .cons entry (framed_entryDisplays es)

end

/-! ### What is written for a scalar -/

/-- The plain form asks the provider about all scalars but null and strings. -/
def Scalar.askedPlain : Scalar → Bool
  | .null | .string _ => false
  | _ => true

/-- The themed form asks about booleans and characters no more than about null and strings. -/
def Scalar.askedThemed : Scalar → Bool
  | .bool _ | .char _ => false
  | s => s.askedPlain

namespace Slot

variable {slot : Slot} (provider : Provider)

/-- The provider's answer, or what the scalar makes of the format if there is none. -/
def answered (provider : Provider) (slot : Slot) : String :=
  (provider slot.format slot.scalar).getD (slot.scalar.formatted slot.format)

theorem plain_eq_answered (asked : slot.scalar.askedPlain = true) :
    slot.plain provider = slot.answered provider := by
  obtain ⟨format, s⟩ := slot
  cases s with
  | null => contradiction
  | string t => contradiction
  | _ => rfl

theorem themed_eq_answered (asked : slot.scalar.askedThemed = true) :
    slot.themed provider = slot.answered provider := by
  obtain ⟨format, s⟩ := slot
  cases s with
  | null => contradiction
  | string t => contradiction
  | bool b => contradiction
  | char c => contradiction
  | _ => rfl

/-- Where the themed form does not ask, all providers are alike to it. -/
theorem themed_of_not_asked (notAsked : slot.scalar.askedThemed = false) (provider' : Provider) :
    slot.themed provider = slot.themed provider' := by
  obtain ⟨format, s⟩ := slot
  cases s with
  | null => rfl
  | string t => rfl
  | bool b => rfl
  | char c => rfl
  | _ => contradiction

theorem themed_bool (format : Option String) (b : Bool) :
    (Slot.mk format (.bool b)).themed provider = (Scalar.bool b).formatted format := by
  cases format <;> rfl

/-- Without an answer all scalars that the plain form asks about look the same in both forms, except
characters, which the themed form quotes. -/
theorem plain_eq_themed (unanswered : provider slot.format slot.scalar = none)
    (asked : slot.scalar.askedPlain = true) (notChar : ∀ c, slot.scalar ≠ .char c) :
    slot.plain provider = slot.themed provider := by
  have own : slot.answered provider = slot.scalar.formatted slot.format := by
    rw [answered, unanswered, Option.getD_none]
  rw [plain_eq_answered provider asked]
  obtain ⟨format, s⟩ := slot
  cases s with
  | null => contradiction
  | string t => contradiction
  | bool b => rw [own, themed_bool]
  | char c => exact absurd rfl (notChar c)
  | _ => rfl

end Slot

/-- In both forms a value is a frame around its scalars that no provider has a say in, and what is
written for a scalar is the provider's answer, or the scalar's own text if there is none: in the
plain form for all scalars but null and strings, and in the themed form for these but booleans and
characters, about which no provider makes a difference. Unanswered scalars other than characters are
written alike. -/
theorem Value.provider_in_both_forms (format : Option String) (v : Value) :
    ∃ plain themed : List Stretch,
      slotsOf plain = v.slots format ∧ slotsOf themed = v.slots format ∧
      ∀ provider,
        Delivers (v.writer provider format) (fill (Slot.plain provider) plain) ∧
        Delivers (v.displayWriter Theme.plain provider format).uncounted
          (fill (Slot.themed provider) themed) ∧
        ∀ slot ∈ v.slots format,
          (slot.scalar.askedPlain = true → slot.plain provider = slot.answered provider) ∧
          (slot.scalar.askedThemed = true → slot.themed provider = slot.answered provider) ∧
          (slot.scalar.askedThemed = false → slot.themed provider = slot.themed .none) ∧
          (provider slot.format slot.scalar = none → slot.scalar.askedPlain = true →
            (∀ c, slot.scalar ≠ .char c) → slot.plain provider = slot.themed provider) := by
  obtain ⟨plain, plainSlots, plainText⟩ := v.framed_text format
  obtain ⟨themed, themedSlots, themedText⟩ := v.framed_display format
  refine ⟨plain, themed, plainSlots, themedSlots, ?_⟩
  intro provider
  refine ⟨?_, ?_, ?_⟩
  · rw [← plainText]
    exact delivers_value provider format v
  · rw [← themedText]
    exact (v.writes_display Theme.plain provider format).uncounted.delivers
  · intro slot _
    exact ⟨slot.plain_eq_answered provider, slot.themed_eq_answered provider,
      fun notAsked => slot.themed_of_not_asked provider notAsked .none,
      slot.plain_eq_themed provider⟩

theorem Value.themed_bool_ignores_provider :
    let provider : Provider := fun format _ => some ("yes<" ++ format.getD "-" ++ ">")
    let flag := Value.scalar (.bool true)
    let letter := Value.scalar (.char 'c')
    provider none (.bool true) = some "yes<->" ∧
      flag.writer provider none {} = (⟨none, "yes<->"⟩, true) ∧
      flag.displayWriter Theme.plain provider none {} = (⟨none, "true"⟩, some 0) ∧
      letter.writer provider none {} = (⟨none, "yes<->"⟩, true) ∧
      letter.displayWriter Theme.plain provider none {} = (⟨none, "\x27c\x27"⟩, some 0) := by
  decide +kernel

end StructuredLog
