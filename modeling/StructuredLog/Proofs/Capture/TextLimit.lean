import StructuredLog.Proofs.Capture.Parts

/-!
The limit on texts as a map over results. Under the limit a capture shortens each text where it
meets it. Shortening the texts of the unlimited capture afterwards comes to the same, because no
decision on the way looks into a text, as long as the result has no texts that the limit spares:
those of bytes and functions, strings that scalars carry, and keys that are made texts.
-/

namespace StructuredLog

/-! ### Texts of a value -/

def Scalar.mapString (f : String → String) : Scalar → Scalar
  | .string s => .string (f s)
  | s => s

mutual

/-- A value in which each string is replaced, in the keys of dictionaries too, and nothing else. -/
def Value.mapStrings (f : String → String) : Value → Value
  | .scalar s => .scalar (s.mapString f)
  | .sequence items => .sequence (mapItemStrings f items)
  | .record tag members => .record tag (mapMemberStrings f members)
  | .dictionary entries => .dictionary (mapEntryStrings f entries)

def mapItemStrings (f : String → String) : List Value → List Value
  | [] => []
  | v :: vs => v.mapStrings f :: mapItemStrings f vs

def mapMemberStrings (f : String → String) : List (String × Value) → List (String × Value)
  | [] => []
  | (name, v) :: ms => (name, v.mapStrings f) :: mapMemberStrings f ms

def mapEntryStrings (f : String → String) : List (Scalar × Value) → List (Scalar × Value)
  | [] => []
  | (key, v) :: es => (key.mapString f, v.mapStrings f) :: mapEntryStrings f es

end

section MapStrings

variable (f g : String → String)

theorem mapItemStrings_eq (vs : List Value) : mapItemStrings f vs = vs.map (·.mapStrings f) := by
  induction vs with
  | nil => rfl
  | cons v vs ih => rw [mapItemStrings, ih, List.map_cons]

theorem mapMemberStrings_eq (ms : List (String × Value)) :
    mapMemberStrings f ms = ms.map (Prod.map id (·.mapStrings f)) := by
  induction ms with
  | nil => rfl
  | cons m ms ih => rw [mapMemberStrings, ih, List.map_cons, Prod.map, id]

theorem mapEntryStrings_eq (es : List (Scalar × Value)) :
    mapEntryStrings f es = es.map (Prod.map (·.mapString f) (·.mapStrings f)) := by
  induction es with
  | nil => rfl
  | cons e es ih => rw [mapEntryStrings, ih, List.map_cons, Prod.map]

theorem Scalar.mapString_mapString (s : Scalar) :
    (s.mapString g).mapString f = s.mapString (f ∘ g) := by
  cases s <;> rfl

mutual

theorem Value.mapStrings_mapStrings : (v : Value) →
    (v.mapStrings g).mapStrings f = v.mapStrings (f ∘ g)
  | .scalar s => by simp only [Value.mapStrings, Scalar.mapString_mapString]
  | .sequence items => by simp only [Value.mapStrings, mapItemStrings_mapItemStrings items]
  | .record tag members => by
    simp only [Value.mapStrings, mapMemberStrings_mapMemberStrings members]
  | .dictionary entries => by simp only [Value.mapStrings, mapEntryStrings_mapEntryStrings entries]

theorem mapItemStrings_mapItemStrings : (vs : List Value) →
    mapItemStrings f (mapItemStrings g vs) = mapItemStrings (f ∘ g) vs
  | [] => rfl
  | v :: vs => by
    simp only [mapItemStrings, v.mapStrings_mapStrings, mapItemStrings_mapItemStrings vs]

theorem mapMemberStrings_mapMemberStrings : (ms : List (String × Value)) →
    mapMemberStrings f (mapMemberStrings g ms) = mapMemberStrings (f ∘ g) ms
  | [] => rfl
  | (name, v) :: ms => by
    simp only [mapMemberStrings, v.mapStrings_mapStrings, mapMemberStrings_mapMemberStrings ms]

theorem mapEntryStrings_mapEntryStrings : (es : List (Scalar × Value)) →
    mapEntryStrings f (mapEntryStrings g es) = mapEntryStrings (f ∘ g) es
  | [] => rfl
  | (key, v) :: es => by
    simp only [mapEntryStrings, Scalar.mapString_mapString, v.mapStrings_mapStrings,
      mapEntryStrings_mapEntryStrings es]

end

end MapStrings

/-- A text of at most so many characters; the last one is an ellipsis where some are left out. -/
def shorten (limit : Nat) (s : String) : String :=
  if s.length ≤ limit then s else String.ofList (s.toList.take (limit - 1)) ++ "…"

section Shorten

variable {limit : Nat} {s : String}

theorem shorten_of_le (short : s.length ≤ limit) : shorten limit s = s := if_pos short

theorem toList_shorten (long : limit < s.length) :
    (shorten limit s).toList = s.toList.take (limit - 1) ++ ['…'] := by
  rw [shorten, if_neg (Nat.not_le_of_lt long), String.toList_append, String.toList_ofList]
  rfl

theorem length_shorten (positive : 0 < limit) (long : limit < s.length) :
    (shorten limit s).length = limit := by
  rw [← String.length_toList, toList_shorten long, List.length_append, List.length_take,
    String.length_toList, List.length_singleton]
  omega

theorem shorten_shorten (positive : 0 < limit) : shorten limit ∘ shorten limit = shorten limit := by
  funext s
  apply shorten_of_le
  by_cases short : s.length ≤ limit
  · rw [shorten_of_le short]
    exact short
  · exact (length_shorten positive (Nat.lt_of_not_le short)).le

end Shorten

namespace Capture

/-! ### Outcomes whose results are mapped -/

namespace Outcome

protected def map (f : β → γ) (o : Outcome β) : Outcome γ := ⟨o.log, o.calls, o.result.map f⟩

variable {f : β → γ}

theorem map_pure (b : β) : (Outcome.pure b).map f = .pure (f b) := rfl

theorem map_bind (o : Outcome δ) (g : δ → Outcome β) :
    (o.bind g).map f = o.bind fun d => (g d).map f := by
  obtain ⟨log, calls, result⟩ := o
  cases result <;> rfl

theorem bind_map (o : Outcome β) (g : γ → Outcome δ) :
    (o.map f).bind g = o.bind fun b => g (f b) := by
  obtain ⟨log, calls, result⟩ := o
  cases result <;> rfl

theorem orLog_map (o : Outcome β) (ds : List Diagnostic) :
    (o.map f).orLog ds = (o.orLog ds).map f := by
  obtain ⟨log, calls, result⟩ := o
  cases result <;> rfl

theorem bind_congr {o : Outcome β} {g g' : β → Outcome γ}
    (same : ∀ b, o.result = .ok b → g b = g' b) : o.bind g = o.bind g' := by
  obtain ⟨log, calls, result⟩ := o
  cases result with
  | ok b => rw [bind_ok, bind_ok, same b rfl]
  | error e => rfl

theorem each_eq_map {g g' : α → Outcome β} {f : β → β} {as : List α}
    (all : ∀ a ∈ as, g' a = (g a).map f) : each g' as = (each g as).map (List.map f) := by
  induction as with
  | nil => rfl
  | cons a as ih =>
    rw [List.forall_mem_cons] at all
    rw [each, each, all.1, ih all.2, bind_map, map_bind]
    refine bind_congr fun b _ => ?_
    rw [bind_map, map_bind]
    rfl

end Outcome

/-! ### What a value holds -/

/-- What a value shows as its own parts, whether or not a capture comes to them. -/
inductive Host.Shows (h : Host α) (a : α) : α → Prop
  | item {items b} : (h.inside a).shape = .sequence items → b ∈ items → h.Shows a b
  | component {items b} : (h.inside a).shape = .tuple items → b ∈ items → h.Shows a b
  | key {key standard entries e} :
      (h.inside a).shape = .map key standard entries → e ∈ entries → h.Shows a e.1
  | entry {key standard entries e} :
      (h.inside a).shape = .map key standard entries → e ∈ entries → h.Shows a e.2
  | member {members name source b} :
      (h.inside a).shape = .object members → .property name source ∈ members →
      source.value? = some b → h.Shows a b

/-- A value lies in another one, at any depth. -/
abbrev Host.Holds (h : Host α) : α → α → Prop := Relation.ReflTransGen h.Shows

namespace Converter

/-- The same converter with another limit on texts. -/
def withTextLength (c : Converter α) (textLength : Option Nat) : Converter α :=
  { c with limits := { c.limits with textLength } }

theorem truncate_of_unlimited {c : Converter α} (unlimited : c.limits.textLength = none)
    (s : String) : c.truncate s = s := by
  rw [truncate, unlimited]

/-- A value is captured with no text of its own that the limit on texts spares. -/
structure SparesNone (c : Converter α) (h : Host α) (a : α) : Prop where
  noBytes : ∀ data, (h.inside a).shape ≠ .bytes data
  noFunction : (h.inside a).shape ≠ .function
  noString : ∀ s, (h.inside a).shape ≠ .scalar (.string s)
  scalarKeys : ∀ key standard entries, (h.inside a).shape = .map key standard entries →
    c.isDictionary (h.inside a) key standard = true →
    ∀ e ∈ entries, ∃ s, (c.capture h e.1 .destructure).result = .ok (.scalar s)

/-! ### One step -/

/-- The parts of a value, captured under the limit and without one. -/
structure PartsShortened (h : Host α) (limit : Nat) (a : α) (short free : Nested α) : Prop where
  value : ∀ {b}, h.Shows a b → short.value b .destructure =
    (free.value b .destructure).map (·.mapStrings (shorten limit))
  text : ∀ s, short.text s = (free.text s).map (·.mapStrings (shorten limit))

section Step

variable {c : Converter α} {h : Host α} {limit : Nat} {a : α}

theorem atom?_withTextLength (unlimited : c.limits.textLength = none) (spares : c.SparesNone h a) :
    (c.withTextLength (some limit)).atom? (h.inside a) .destructure =
      (c.atom? (h.inside a) .destructure).map (·.mapString (shorten limit)) := by
  have noWrapper : ∀ b, (h.inside a).shape ≠ .wrapper b := h.look_unwrap_ne_wrapper a
  obtain ⟨noBytes, noFunction, noString, -⟩ := spares
  generalize h.inside a = l at noBytes noFunction noString noWrapper ⊢
  obtain ⟨shape, type, registeredAs, ownText?⟩ := l
  have registered : (c.withTextLength (some limit)).scalarTypes = c.scalarTypes := rfl
  cases shape with
  | null => rfl
  | scalar s =>
    cases s with
    | string s => exact absurd rfl (noString s)
    | _ => rfl
  | text s =>
    simp only [atom?, scalar?, truncate_of_unlimited unlimited]
    rfl
  | bytes data => exact absurd rfl (noBytes data)
  | function => exact absurd rfl noFunction
  | wrapper b => exact absurd rfl (noWrapper b)
  | _ =>
    simp only [atom?, scalar?, alone?, registered]
    split <;> rfl

/-- A key that is captured as a scalar is one at every depth. -/
theorem exists_atom (noPolicies : c.policies = []) {levels depth : Nat} {s : Scalar}
    (ok : (c.captureAt h levels depth a .destructure).result = .ok (.scalar s)) :
    ∃ s, c.atom? (h.inside a) .destructure = some s := by
  cases atom : c.atom? (h.inside a) .destructure with
  | some s => exact ⟨s, rfl⟩
  | none =>
    have assembled := assembled_of_no_atom noPolicies atom ok
    generalize (h.inside a).shape = shape at assembled
    nomatch assembled

variable {short free : Nested α} (parts : PartsShortened h limit a short free)
include parts

theorem source_shortened {members : List (Member α)}
    (shape : (h.inside a).shape = .object members) {typeName name : String} {source : Source α}
    (mem : .property name source ∈ members) :
    (c.withTextLength (some limit)).source short typeName name source =
      (c.source free typeName name source).map (·.mapStrings (shorten limit)) := by
  have strict : (c.withTextLength (some limit)).strict = c.strict := rfl
  cases source with
  | field b => exact parts.value (.member shape mem rfl)
  | getter accessor result =>
    cases result with
    | ok b => simp only [Converter.source, Outcome.map_bind, parts.value (.member shape mem rfl)]
    | error e =>
      simp only [Converter.source, Outcome.map_bind, strict, parts.text]
      split <;> rfl
  | unsupported =>
    simp only [Converter.source, Outcome.map_bind, strict, parts.text]
    split <;> rfl

theorem members_shortened {members : List (Member α)}
    (shape : (h.inside a).shape = .object members) (typeName : String) (taken : List String) :
    (c.withTextLength (some limit)).members short typeName members taken =
      (c.members free typeName members taken).map
        (List.map (Prod.map id (·.mapStrings (shorten limit)))) := by
  have sources (name : String) (source : Source α) (mem : .property name source ∈ members) :
      (c.withTextLength (some limit)).source short typeName name source =
        (c.source free typeName name source).map (·.mapStrings (shorten limit)) :=
    source_shortened parts shape mem
  clear shape
  induction members generalizing taken with
  | nil => rfl
  | cons member members ih =>
    have later (taken : List String) :=
      ih taken fun name source mem => sources name source (List.mem_cons_of_mem _ mem)
    cases member with
    | indexer name =>
      rw [Converter.members, Converter.members, later, Outcome.map_bind]
    | property name source =>
      rw [Converter.members, Converter.members]
      split
      · exact later taken
      · rw [sources name source List.mem_cons_self, later, Outcome.orLog_map, Outcome.bind_map,
          Outcome.map_bind]
        refine Outcome.bind_congr fun v _ => ?_
        rw [Outcome.bind_map, Outcome.map_bind]
        rfl

theorem entry_shortened {key : TypeDesc} {standard : Bool} {entries : List (α × α)}
    (shape : (h.inside a).shape = .map key standard entries) {e : α × α} (mem : e ∈ entries)
    (scalarKey : ∀ k, (free.value e.1 .destructure).result = .ok k → ∃ s, k = .scalar s) :
    entry short .destructure e = (entry free .destructure e).map
      (Option.map (Prod.map (·.mapString (shorten limit)) (·.mapStrings (shorten limit)))) := by
  unfold entry
  rw [parts.value (.key shape mem), parts.value (.entry shape mem), Outcome.bind_map,
    Outcome.map_bind]
  refine Outcome.bind_congr fun k captured => ?_
  obtain ⟨s, rfl⟩ := scalarKey k captured
  -- Shortened or not, a key is null or is not.
  cases s <;> first | rfl | (simp only [Outcome.bind_map, Outcome.map_bind]; rfl)

theorem pair_shortened {key : TypeDesc} {standard : Bool} {entries : List (α × α)}
    (shape : (h.inside a).shape = .map key standard entries) {e : α × α} (mem : e ∈ entries) :
    pair short .destructure e =
      (pair free .destructure e).map (·.mapStrings (shorten limit)) := by
  unfold pair
  rw [parts.value (.key shape mem), parts.value (.entry shape mem)]
  simp only [Outcome.bind_map, Outcome.map_bind]
  rfl

theorem parts_shortened (noAtom : c.atom? (h.inside a) .destructure = none)
    (scalarKeys : ∀ key standard entries, (h.inside a).shape = .map key standard entries →
      c.isDictionary (h.inside a) key standard = true → ∀ e ∈ entries, ∀ k,
        (free.value e.1 .destructure).result = .ok k → ∃ s, k = .scalar s) :
    (c.withTextLength (some limit)).parts short (h.inside a) .destructure =
      (c.parts free (h.inside a) .destructure).map (·.mapStrings (shorten limit)) := by
  obtain ⟨-, notAlone⟩ := Option.or_eq_none_iff.mp noAtom
  unfold alone? at notAlone
  unfold Converter.parts
  have keep {β : Type} (items : List β) :
      (c.withTextLength (some limit)).keep items = c.keep items := rfl
  cases shape : (h.inside a).shape with
  | sequence items =>
    dsimp only
    rw [keep,
      Outcome.each_eq_map fun b mem => parts.value (.item shape ((c.keep_sublist _).mem mem)),
      Outcome.bind_map, Outcome.map_bind]
    simp only [Outcome.map_pure, Value.mapStrings, mapItemStrings_eq]
  | tuple items =>
    dsimp only
    rw [Outcome.each_eq_map fun b mem => parts.value (.component shape mem), Outcome.bind_map,
      Outcome.map_bind]
    simp only [Outcome.map_pure, Value.mapStrings, mapItemStrings_eq]
  | map key standard entries =>
    have dictionary : (c.withTextLength (some limit)).isDictionary (h.inside a) key standard =
      c.isDictionary (h.inside a) key standard := rfl
    dsimp only
    rw [dictionary, keep]
    split
    · next isDictionary =>
      rw [Outcome.each_eq_map fun e mem => entry_shortened parts shape ((c.keep_sublist _).mem mem)
        (scalarKeys key standard entries shape isDictionary e ((c.keep_sublist _).mem mem)),
        Outcome.bind_map, Outcome.map_bind]
      simp only [Outcome.map_pure, Value.mapStrings, mapEntryStrings_eq, List.filterMap_map,
        List.map_filterMap]
      rfl
    · rw [Outcome.each_eq_map fun e mem => pair_shortened parts shape ((c.keep_sublist _).mem mem),
        Outcome.bind_map, Outcome.map_bind]
      simp only [Outcome.map_pure, Value.mapStrings, mapItemStrings_eq]
  | object members =>
    simp only [if_true]
    rw [members_shortened parts shape, Outcome.bind_map, Outcome.map_bind]
    simp only [Outcome.map_pure, Value.mapStrings, mapMemberStrings_eq]
  | _ => simp [shape] at notAlone

end Step

/-! ### The whole capture -/

section Capture

variable {c : Converter α} {h : Host α} {limit : Nat} {a : α}

theorem exists_scalar_of_atom (noPolicies : c.policies = []) {hint : Hint} {s : Scalar}
    (atom : c.atom? (h.inside a) hint = some s) {levels depth : Nat} {v : Value}
    (ok : ((c.nestedAt h levels depth).value a hint).result = .ok v) : ∃ s, v = .scalar s := by
  cases levels with
  | zero => cases ok; exact ⟨_, rfl⟩
  | succ levels =>
    change (c.captureAt h levels (depth + 1) a hint).result = .ok v at ok
    rw [captureAt_of_atom noPolicies atom] at ok
    cases ok
    exact ⟨s, rfl⟩

theorem captureAt_of_partsShortened (unlimited : c.limits.textLength = none)
    (noPolicies : c.policies = []) (spares : c.SparesNone h a) {levels depth : Nat}
    (parts : PartsShortened h limit a ((c.withTextLength (some limit)).nestedAt h levels depth)
      (c.nestedAt h levels depth)) :
    (c.withTextLength (some limit)).captureAt h levels depth a .destructure =
      (c.captureAt h levels depth a .destructure).map (·.mapStrings (shorten limit)) := by
  have noPolicies' : (c.withTextLength (some limit)).policies = [] := noPolicies
  have same : (c.withTextLength (some limit)).atom? (h.inside a) .destructure =
      (c.atom? (h.inside a) .destructure).map (·.mapString (shorten limit)) :=
    atom?_withTextLength unlimited spares
  cases atom : c.atom? (h.inside a) .destructure with
  | some s =>
    rw [atom, Option.map_some] at same
    rw [captureAt_of_atom noPolicies atom, captureAt_of_atom noPolicies' same]
    rfl
  | none =>
    rw [atom, Option.map_none] at same
    rw [captureAt_of_no_atom noPolicies atom, captureAt_of_no_atom noPolicies' same]
    refine parts_shortened parts atom ?_
    intro key standard entries shape isDictionary e mem k captured
    obtain ⟨s, ok⟩ := spares.scalarKeys key standard entries shape isDictionary e mem
    obtain ⟨s, atom⟩ := exists_atom noPolicies ok
    exact exists_scalar_of_atom noPolicies atom captured

theorem captureAt_shortened (unlimited : c.limits.textLength = none)
    (noPolicies : c.policies = []) (spares : ∀ b, h.Holds a b → c.SparesNone h b)
    (levels depth : Nat) :
    (c.withTextLength (some limit)).captureAt h levels depth a .destructure =
      (c.captureAt h levels depth a .destructure).map (·.mapStrings (shorten limit)) := by
  induction levels generalizing depth a with
  | zero =>
    refine captureAt_of_partsShortened unlimited noPolicies (spares a .refl) ?_
    exact ⟨fun _ => rfl, fun _ => rfl⟩
  | succ levels ih =>
    refine captureAt_of_partsShortened unlimited noPolicies (spares a .refl) ⟨?_, ?_⟩
    · intro b shows
      exact ih (fun last holds => spares last (.head shows holds)) (depth + 1)
    · intro s
      simp only [nestedAt, partsAt, truncate_of_unlimited unlimited]
      rfl

end Capture

/-- A limit on texts is a map over results. Where a value holds, at any depth, no bytes, functions
or scalars that carry strings, and keys of its dictionaries are captured as scalars, the capture
under a limit is the one without a limit, whose log it keeps, with every string shortened, in keys
too. A string of at most that many characters stays; of a longer one all but one of as many
characters stay, before an ellipsis. To shorten the result again changes nothing. -/
theorem capture_shortened (c : Converter α) (noPolicies : c.policies = []) {limit : Nat}
    (least : 2 ≤ limit) (h : Host α) (a : α)
    (spares : ∀ b, h.Holds a b → (c.withTextLength none).SparesNone h b) :
    (c.withTextLength (some limit)).capture h a .destructure =
      ((c.withTextLength none).capture h a .destructure).map (·.mapStrings (shorten limit)) ∧
    (∀ s, s.length ≤ limit → shorten limit s = s) ∧
    (∀ s, limit < s.length → (shorten limit s).length = limit ∧
      (shorten limit s).toList = s.toList.take (limit - 1) ++ ['…']) ∧
    ∀ v : Value, (v.mapStrings (shorten limit)).mapStrings (shorten limit) =
      v.mapStrings (shorten limit) := by
  have positive : 0 < limit := Nat.lt_of_lt_of_le Nat.two_pos least
  refine ⟨?_, fun s => shorten_of_le, ?_, ?_⟩
  · exact captureAt_shortened (c := c.withTextLength none) rfl noPolicies spares _ _
  · intro s long
    exact ⟨length_shorten positive long, toList_shorten long⟩
  · intro v
    rw [Value.mapStrings_mapStrings, shorten_shorten positive]

/-! ### A note with texts of all sorts -/

def noteText (s : String) : Subject := .plain Standard.text (.text s)

def noteTags : Subject :=
  .plain "alloc::collections::btree::map::BTreeMap<alloc::string::String, alloc::string::String>"
    (.map ⟨Standard.text, false, false⟩ true [(noteText "colour", noteText "red")])

def noteMembers : List (Member Subject) :=
  [.property "Title" (.field (noteText "untitled")), .property "Tags" (.field noteTags),
   .property "State" (.getter 1 (.error ⟨"core::fmt::Error", "stuck"⟩))]

def note : Subject := .plain "Note" (.object noteMembers)

section Note

variable {c : Converter Subject} {b : Subject}

theorem inside_noteText (s : String) : Subject.rings.inside (noteText s) =
    ⟨.text s, ⟨Standard.text, false, false⟩, Standard.text, none⟩ :=
  Subject.inside_plain _ (.text s) nofun

theorem noteText_spares (s : String) (holds : Subject.rings.Holds (noteText s) b) :
    c.SparesNone Subject.rings b := by
  have inside := inside_noteText s
  obtain rfl | ⟨b, shows, -⟩ := holds.cases_head
  · constructor <;> simp [inside]
  · cases shows <;> simp_all

theorem noteTags_spares (noPolicies : c.policies = [])
    (holds : Subject.rings.Holds noteTags b) : c.SparesNone Subject.rings b := by
  have inside : (Subject.rings.inside noteTags).shape =
      .map ⟨Standard.text, false, false⟩ true [(noteText "colour", noteText "red")] :=
    congrArg Look.shape (Subject.inside_plain _ (.map _ _ _) nofun)
  obtain rfl | ⟨b, shows, rest⟩ := holds.cases_head
  · refine ⟨?_, ?_, ?_, ?_⟩
    · simp [inside]
    · simp [inside]
    · simp [inside]
    · intro key standard entries shape _ e mem
      rw [inside] at shape
      cases shape
      obtain rfl := List.mem_singleton.mp mem
      refine ⟨.string (c.truncate "colour"), ?_⟩
      rw [capture, captureAt_of_atom noPolicies (s := .string (c.truncate "colour"))]
      · rfl
      · rw [inside_noteText]
        rfl
  · cases shows with
    | key shape mem =>
      rw [inside] at shape
      cases shape
      obtain rfl := List.mem_singleton.mp mem
      exact noteText_spares _ rest
    | entry shape mem =>
      rw [inside] at shape
      cases shape
      obtain rfl := List.mem_singleton.mp mem
      exact noteText_spares _ rest
    | item shape => simp [inside] at shape
    | component shape => simp [inside] at shape
    | member shape => simp [inside] at shape

theorem note_spares (noPolicies : c.policies = []) (holds : Subject.rings.Holds note b) :
    c.SparesNone Subject.rings b := by
  have inside : (Subject.rings.inside note).shape = .object noteMembers :=
    congrArg Look.shape (Subject.inside_plain "Note" (.object noteMembers) nofun)
  obtain rfl | ⟨b, shows, rest⟩ := holds.cases_head
  · constructor <;> simp [inside]
  · cases shows with
    | member shape mem supplied =>
      rw [inside] at shape
      cases shape
      simp only [noteMembers, List.mem_cons, List.not_mem_nil, or_false, Member.property.injEq]
        at mem
      obtain ⟨-, rfl⟩ | ⟨-, rfl⟩ | ⟨-, rfl⟩ := mem
      · obtain rfl : noteText "untitled" = b := Option.some_inj.mp supplied
        exact noteText_spares _ rest
      · obtain rfl : noteTags = b := Option.some_inj.mp supplied
        exact noteTags_spares noPolicies rest
      · contradiction
    | item shape => simp [inside] at shape
    | component shape => simp [inside] at shape
    | key shape => simp [inside] at shape
    | entry shape => simp [inside] at shape

end Note

theorem capture_shortened_note :
    let c : Converter Subject := {}
    c.policies = [] ∧ 2 ≤ 4 ∧
      (∀ b, Subject.rings.Holds note b → (c.withTextLength none).SparesNone Subject.rings b) ∧
      (c.withTextLength (some 4)).capture Subject.rings note .destructure =
        ((c.withTextLength none).capture Subject.rings note .destructure).map
          (·.mapStrings (shorten 4)) ∧
      ((c.withTextLength (some 4)).capture Subject.rings note .destructure).result.map
          (·.text .none none) =
        .ok "Note \x7b Title: \"unt…\", Tags: [(\"col…\": \"red\")], State: \"The…\" \x7d" := by
  intro c
  have spares (b : Subject) (holds : Subject.rings.Holds note b) :
      (c.withTextLength none).SparesNone Subject.rings b := note_spares rfl holds
  exact ⟨rfl, by decide, spares,
    (capture_shortened c rfl (by decide) Subject.rings note spares).1, by decide +kernel⟩

end Converter

end Capture

end StructuredLog
