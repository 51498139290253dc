import StructuredLog.Proofs.Capture.Parts

/-!
What a limit on items leaves of a capture. Values that are alike up to the limit, at every depth,
are captured alike, with the same errors and diagnostics: of the items beyond it nothing is looked
at. A host in which sequences and maps are cut beforehand is a case of this.
-/

namespace StructuredLog.Capture

theorem Outcome.each_congr {R : α → β → Prop} {f : α → Outcome γ} {g : β → Outcome γ} {as : List α}
    {bs : List β} (all : List.Forall₂ R as bs) (same : ∀ {a b}, R a b → f a = g b) :
    each f as = each g bs := by
  induction all with
  | nil => rfl
  | cons head tail ih => rw [each, each, same head, ih]

/-! ### Alike up to the limit -/

/-- Sources of one kind, with values that are alike. -/
inductive AlikeSource (alike : α → α → Prop) : Source α → Source α → Prop
  | field {a a'} : alike a a' → AlikeSource alike (.field a) (.field a')
  | getter {accessor a a'} :
      alike a a' → AlikeSource alike (.getter accessor (.ok a)) (.getter accessor (.ok a'))
  | failed {accessor e} :
      AlikeSource alike (.getter accessor (.error e)) (.getter accessor (.error e))
  | unsupported : AlikeSource alike .unsupported .unsupported

inductive AlikeMember (alike : α → α → Prop) : Member α → Member α → Prop
  | property {name source source'} :
      AlikeSource alike source source' →
      AlikeMember alike (.property name source) (.property name source')
  | indexer {name} : AlikeMember alike (.indexer name) (.indexer name)

/-- Entries with alike keys and alike values. -/
def AlikeEntry (alike : α → α → Prop) (e e' : α × α) : Prop := alike e.1 e'.1 ∧ alike e.2 e'.2

namespace Shape

/-- Has a number of items that a limit can apply to. -/
def isCollection : Shape α → Bool
  | .sequence _ | .map _ _ _ => true
  | _ => false

def hasParts : Shape α → Bool
  | .sequence _ | .map _ _ _ | .tuple _ | .object _ => true
  | _ => false

end Shape

namespace Converter

section Alike

variable (c : Converter α) (alike : α → α → Prop)

/-- One shape, with parts that are alike. Of sequences and maps only what the limit keeps counts. -/
inductive AlikeShape : Shape α → Shape α → Prop
  | leaf {shape} : shape.hasParts = false → AlikeShape shape shape
  | sequence {items items'} :
      List.Forall₂ alike (c.keep items) (c.keep items') →
      AlikeShape (.sequence items) (.sequence items')
  | tuple {items items'} :
      List.Forall₂ alike items items' → AlikeShape (.tuple items) (.tuple items')
  | map {key standard entries entries'} :
      List.Forall₂ (AlikeEntry alike) (c.keep entries) (c.keep entries') →
      AlikeShape (.map key standard entries) (.map key standard entries')
  | object {members members'} :
      List.Forall₂ (AlikeMember alike) members members' →
      AlikeShape (.object members) (.object members')

/-- Sequences and maps may differ in their own text as well, unless it is what they are captured
as. -/
structure AlikeLook (l l' : Look α) : Prop where
  shape : AlikeShape c alike l.shape l'.shape
  type : l'.type = l.type
  registeredAs : l'.registeredAs = l.registeredAs
  text : l.shape.isCollection = false ∨ c.scalarTypes.contains l.registeredAs = true →
    l'.text = l.text

/-- Values that are alike show themselves alike, each in its host. -/
def AlikeHosts (h h' : Host α) : Prop :=
  ∀ {a a'}, alike a a' → AlikeLook c alike (h.inside a) (h'.inside a')

end Alike

/-! ### Captures of what is alike -/

/-- Parts that are alike are captured alike. -/
structure PartsAlike (alike : α → α → Prop) (nested nested' : Nested α) : Prop where
  value : ∀ {hint}, hint ≠ .stringify → ∀ {a a'}, alike a a' →
    nested.value a hint = nested'.value a' hint
  text : nested.text = nested'.text

section Captures

variable {c : Converter α} {alike : α → α → Prop} {l l' : Look α} {hint : Hint}

/-- What has parts is a scalar only if its type is registered as one. -/
theorem scalar?_of_hasParts (hasParts : l.shape.hasParts = true) (byKind : hint ≠ .stringify) :
    c.scalar? l hint =
      if c.scalarTypes.contains l.registeredAs then some (.other l.text) else none := by
  unfold scalar?
  cases shape : l.shape with
  | sequence _ | map _ _ _ | tuple _ | object _ => cases hint <;> first | rfl | contradiction
  | _ => simp [shape, Shape.hasParts] at hasParts

theorem AlikeShape.leaf_or_hasParts {shape shape' : Shape α}
    (shapes : AlikeShape c alike shape shape') :
    shape = shape' ∧ shape.isCollection = false ∨
      shape.hasParts = true ∧ shape'.hasParts = true := by
  cases shapes with
  | @leaf shape noParts => cases shape <;> first | exact .inl ⟨rfl, rfl⟩ | contradiction
  | _ => exact .inr ⟨rfl, rfl⟩

theorem scalar?_alike (looks : AlikeLook c alike l l') (byKind : hint ≠ .stringify) :
    c.scalar? l hint = c.scalar? l' hint := by
  obtain ⟨same, noCollection⟩ | ⟨hasParts, hasParts'⟩ := looks.shape.leaf_or_hasParts
  · unfold scalar?
    rw [same, looks.registeredAs, looks.text (.inl noCollection)]
  · rw [scalar?_of_hasParts hasParts byKind, scalar?_of_hasParts hasParts' byKind,
      looks.registeredAs]
    split
    · next registered => rw [looks.text (.inr registered)]
    · rfl

theorem skipped_alike {typeName : String} {members members' : List (Member α)}
    (all : List.Forall₂ (AlikeMember alike) members members') :
    skipped typeName members = skipped typeName members' := by
  induction all with
  | nil => rfl
  | cons head tail ih =>
    unfold skipped at ih ⊢
    rw [List.filterMap_cons, List.filterMap_cons, ih]
    cases head <;> rfl

namespace PartsAlike

variable {nested nested' : Nested α} (parts : PartsAlike alike nested nested')
include parts

theorem source {typeName name : String} {source source' : Source α}
    (sources : AlikeSource alike source source') :
    c.source nested typeName name source = c.source nested' typeName name source' := by
  have byKind : Hint.destructure ≠ .stringify := nofun
  cases sources with
  | field values => exact parts.value byKind values
  | getter values => simp only [Converter.source, parts.value byKind values]
  | failed => simp only [Converter.source, parts.text]
  | unsupported => simp only [Converter.source, parts.text]

theorem members {typeName : String} {members members' : List (Member α)}
    (all : List.Forall₂ (AlikeMember alike) members members') (taken : List String) :
    c.members nested typeName members taken = c.members nested' typeName members' taken := by
  induction all generalizing taken with
  | nil => rfl
  | cons head tail ih =>
    cases head with
    | indexer => rw [Converter.members, Converter.members, ih]
    | property sources =>
      rw [Converter.members, Converter.members, ih, ih, parts.source sources, skipped_alike tail]

theorem entry (byKind : hint ≠ .stringify) {e e' : α × α} (entries : AlikeEntry alike e e') :
    Converter.entry nested hint e = Converter.entry nested' hint e' := by
  unfold Converter.entry
  rw [parts.value byKind entries.1, parts.value byKind entries.2]

theorem pair (byKind : hint ≠ .stringify) {e e' : α × α} (entries : AlikeEntry alike e e') :
    Converter.pair nested hint e = Converter.pair nested' hint e' := by
  unfold Converter.pair
  rw [parts.value byKind entries.1, parts.value byKind entries.2]

theorem parts_eq (byKind : hint ≠ .stringify) (looks : AlikeLook c alike l l') :
    c.parts nested l hint = c.parts nested' l' hint := by
  have dictionary (key : TypeDesc) (standard : Bool) :
      c.isDictionary l key standard = c.isDictionary l' key standard := by
    unfold isDictionary
    rw [looks.registeredAs]
  have text (noCollection : l.shape.isCollection = false) : l'.text = l.text :=
    looks.text (.inl noCollection)
  have items {b b' : α} (values : alike b b') :
      (fun b => nested.value b hint) b = (fun b => nested'.value b hint) b' :=
    parts.value byKind values
  have shapes := looks.shape
  unfold Converter.parts
  -- The text of a collection may differ, but is nowhere in what is made of its items.
  generalize l.shape = shape, l'.shape = shape' at shapes text ⊢
  cases shapes with
  | @leaf shape noParts =>
    cases shape <;> first | contradiction | rw [text rfl]
  | sequence all =>
    dsimp only
    rw [Outcome.each_congr all items]
  | tuple all =>
    dsimp only
    rw [Outcome.each_congr all items]
  | map all =>
    dsimp only
    rw [dictionary, Outcome.each_congr all (parts.entry byKind),
      Outcome.each_congr all (parts.pair byKind)]
  | object all =>
    dsimp only
    rw [parts.members all [], looks.type, text rfl]

theorem step {h h' : Host α} (noPolicies : c.policies = []) (hosts : AlikeHosts c alike h h')
    (byKind : hint ≠ .stringify) {a a' : α} (values : alike a a') :
    c.step h nested a hint = c.step h' nested' a' hint := by
  have looks := hosts values
  unfold Converter.step
  dsimp only
  rw [scalar?_alike looks byKind, parts.parts_eq byKind looks, noPolicies]
  rfl

end PartsAlike

/-- Captures agree on values that are alike up to the limit, with all that is reported on the
way. -/
theorem captureAt_alike {h h' : Host α} (noPolicies : c.policies = [])
    (hosts : AlikeHosts c alike h h') (levels depth : Nat) (byKind : hint ≠ .stringify) {a a' : α}
    (values : alike a a') :
    c.captureAt h levels depth a hint = c.captureAt h' levels depth a' hint := by
  induction levels generalizing depth hint a a' with
  | zero =>
    -- All parts are null, whichever host shows them.
    have parts : PartsAlike alike (.cutOff depth : Nested α) (.cutOff depth) :=
      ⟨fun _ _ _ _ => rfl, rfl⟩
    exact parts.step noPolicies hosts byKind values
  | succ levels ih =>
    have parts : PartsAlike alike (c.partsAt h levels depth) (c.partsAt h' levels depth) :=
      ⟨fun byKind _ _ values => ih (depth + 1) byKind values, rfl⟩
    exact parts.step noPolicies hosts byKind values

end Captures

/-! ### Cutting beforehand -/

section Cut

variable (c : Converter α)

def cutShape : Shape α → Shape α
  | .sequence items => .sequence (c.keep items)
  | .map key standard entries => .map key standard (c.keep entries)
  | shape => shape

/-- A sequence or map with the items that the limit keeps, unless its type is registered as a
scalar. -/
def cutLook (l : Look α) : Look α :=
  if c.scalarTypes.contains l.registeredAs then l else { l with shape := c.cutShape l.shape }

theorem cutShape_eq_wrapper {shape : Shape α} {b : α} :
    c.cutShape shape = .wrapper b ↔ shape = .wrapper b := by
  cases shape <;> simp [cutShape]

theorem cutLook_shape_eq_wrapper {l : Look α} {b : α} :
    (c.cutLook l).shape = .wrapper b ↔ l.shape = .wrapper b := by
  unfold cutLook
  split
  · rfl
  · exact c.cutShape_eq_wrapper

/-- The same values, of which every sequence and map is cut, at every depth. -/
def cutHost (h : Host α) : Host α where
  look a := c.cutLook (h.look a)
  wraps := h.wraps
  wraps_lt wrapper := h.wraps_lt (c.cutLook_shape_eq_wrapper.mp wrapper)

theorem inside_cutHost (h : Host α) (a : α) :
    (c.cutHost h).inside a = c.cutLook (h.inside a) :=
  h.inside_withLooks c.cutLook c.cutLook_shape_eq_wrapper a

theorem keep_of_limit {m : Nat} (limit : c.limits.itemCount = some m) (items : List β) :
    c.keep items = items.take m := by
  rw [keep, limit]

theorem keep_of_unlimited (unlimited : c.limits.itemCount = none) (items : List β) :
    c.keep items = items := by
  rw [keep, unlimited]

theorem keep_keep (items : List β) : c.keep (c.keep items) = c.keep items := by
  cases limit : c.limits.itemCount with
  | none => rw [c.keep_of_unlimited limit, c.keep_of_unlimited limit]
  | some m => simp only [c.keep_of_limit limit, List.take_take, Nat.min_self]

theorem alikeShape_refl (shape : Shape α) : AlikeShape c Eq shape shape := by
  have sources (source : Source α) : AlikeSource Eq source source := by
    rcases source with a | ⟨accessor, result⟩ | _
    · exact .field rfl
    · cases result with
      | ok a => exact .getter rfl
      | error e => exact .failed
    · exact .unsupported
  have members (member : Member α) : AlikeMember Eq member member := by
    cases member with
    | property name source => exact .property (sources source)
    | indexer name => exact .indexer
  cases shape with
  | sequence items => exact .sequence (List.forall₂_refl _)
  | tuple items => exact .tuple (List.forall₂_refl _)
  | map key standard entries => exact .map (List.forall₂_same.mpr fun _ _ => ⟨rfl, rfl⟩)
  | object ms => exact .object (List.forall₂_same.mpr fun member _ => members member)
  | _ => exact .leaf rfl

theorem alikeShape_cutShape (shape : Shape α) : AlikeShape c Eq shape (c.cutShape shape) := by
  cases shape with
  | sequence items =>
    apply AlikeShape.sequence
    rw [keep_keep]
    exact List.forall₂_refl _
  | map key standard entries =>
    apply AlikeShape.map
    rw [keep_keep]
    exact List.forall₂_same.mpr fun _ _ => ⟨rfl, rfl⟩
  | _ => exact c.alikeShape_refl _

theorem alikeLook_cutLook (l : Look α) : AlikeLook c Eq l (c.cutLook l) := by
  unfold cutLook
  split
  · exact ⟨c.alikeShape_refl _, rfl, rfl, fun _ => rfl⟩
  · next unregistered =>
    refine ⟨c.alikeShape_cutShape _, rfl, rfl, ?_⟩
    intro uncut
    have noCollection := uncut.resolve_right unregistered
    have same : c.cutShape l.shape = l.shape := by
      cases shape : l.shape <;> first | rfl | simp [shape, Shape.isCollection] at noCollection
    rw [same]

/-- A value is alike to itself when it is cut. -/
theorem alikeHosts_cutHost (h : Host α) : AlikeHosts c Eq h (c.cutHost h) := by
  rintro a _ rfl
  rw [inside_cutHost]
  exact c.alikeLook_cutLook _

end Cut

/-! ### What is kept -/

/-- Results for the first of some items, as far as the limit goes, in their order. -/
structure FirstKept (c : Converter α) (R : β → γ → Prop) (items : List β) (results : List γ) :
    Prop where
  each : List.Forall₂ R (c.keep items) results
  count : ∀ m, c.limits.itemCount = some m → results.length = min items.length m
  unlimited : c.limits.itemCount = none → results.length = items.length

theorem firstKept_of_forall₂ {c : Converter α} {R : β → γ → Prop} {items : List β}
    {results : List γ} (each : List.Forall₂ R (c.keep items) results) :
    c.FirstKept R items results where
  each := each
  count m limit := by
    rw [← each.length_eq, c.keep_of_limit limit, List.length_take, Nat.min_comm]
  unlimited unlimited := by rw [← each.length_eq, c.keep_of_unlimited unlimited]

/-- Without policies a sequence or map that is no registered scalar is put together from its
parts. -/
theorem assembled_of_captureAt {c : Converter α} {h : Host α} {a : α} {hint : Hint} {v : Value}
    (noPolicies : c.policies = []) (byKind : hint ≠ .stringify)
    (collection : (h.inside a).shape.isCollection = true)
    (unregistered : c.scalarTypes.contains (h.inside a).registeredAs = false) {levels depth : Nat}
    (ok : (c.captureAt h levels depth a hint).result = .ok v) :
    Assembled c [] h a (c.nestedAt h levels depth) (h.inside a).shape hint v := by
  obtain ⟨hasParts, notAlone⟩ :
      (h.inside a).shape.hasParts = true ∧ alone? (h.inside a) hint = none := by
    unfold alone?
    cases shape : (h.inside a).shape <;> simp_all [Shape.isCollection, Shape.hasParts]
  have noScalar : c.scalar? (h.inside a) hint = none := by
    rw [scalar?_of_hasParts hasParts byKind, unregistered]
    rfl
  exact assembled_of_no_atom noPolicies (Option.or_eq_none_iff.mpr ⟨noScalar, notAlone⟩) ok

/-- Without policies the limit on items acts as if every sequence and map had been cut before the
capture: result, error and diagnostics are the same. Nor do they depend on what lies beyond the
limit in any other way. A sequence keeps its first items, and a map its first entries: as pairs all
of them, as a dictionary those whose key is not null. -/
theorem capture_cutHost {c : Converter α} (noPolicies : c.policies = []) {hint : Hint}
    (byKind : hint ≠ .stringify) (h : Host α) (a : α) :
    c.capture (c.cutHost h) a hint = c.capture h a hint ∧
    (∀ (h' : Host α) (alike : α → α → Prop) (a' : α), AlikeHosts c alike h h' → alike a a' →
      c.capture h' a' hint = c.capture h a hint) ∧
    ∀ levels depth b v, c.scalarTypes.contains (h.inside b).registeredAs = false →
      (c.captureAt h levels depth b hint).result = .ok v →
      let nested := c.nestedAt h levels depth
      (∀ items, (h.inside b).shape = .sequence items →
        ∃ vs, v = .sequence vs ∧ c.FirstKept (Branch c [] h b nested hint · hint) items vs) ∧
      ∀ key standard entries, (h.inside b).shape = .map key standard entries →
        if c.isDictionary (h.inside b) key standard then
          ∃ es, v = .dictionary (es.filterMap id) ∧
            c.FirstKept (EntryOf c [] h b nested hint) entries es
        else
          ∃ vs, v = .sequence vs ∧ c.FirstKept (PairOf c [] h b nested hint) entries vs := by
  refine ⟨?_, ?_, ?_⟩
  · exact (captureAt_alike noPolicies (c.alikeHosts_cutHost h) _ _ byKind rfl).symm
  · intro h' alike a' hosts values
    exact (captureAt_alike noPolicies hosts _ _ byKind values).symm
  intro levels depth b v unregistered ok nested
  have assembled (collection : (h.inside b).shape.isCollection = true) :
      Assembled c [] h b nested (h.inside b).shape hint v :=
    assembled_of_captureAt noPolicies byKind collection unregistered ok
  constructor
  · intro items shape
    rw [shape] at assembled
    cases assembled rfl with
    | sequence all => exact ⟨_, rfl, firstKept_of_forall₂ all⟩
  · intro key standard entries shape
    rw [shape] at assembled
    cases assembled rfl with
    | dictionary isMap all =>
      rw [if_pos (isMap.isDictionary_eq shape)]
      exact ⟨_, rfl, firstKept_of_forall₂ all⟩
    | pairs isMap all =>
      rw [if_neg (Bool.eq_false_iff.mp (isMap.isDictionary_eq shape))]
      exact ⟨_, rfl, firstKept_of_forall₂ all⟩

/-! ### A third item that would fail -/

def firstTwo : Converter Subject where
  limits := { itemCount := some 2 }
  strict := true

def letter (c : Char) : Subject := .plain "char" (.scalar (.char c))

/-- Two short collections, and a door whose state cannot be read. -/
def roomItems : List Subject :=
  [.plain "alloc::vec::Vec<char>" (.sequence [letter 'a', letter 'b', letter 'c']),
   .plain "alloc::collections::btree::map::BTreeMap<alloc::string::String, char>"
    (.map ⟨"alloc::string::String", false, false⟩ true
      [(.plain "core::option::Option" .null, letter 'x'),
       (.plain "alloc::string::String" (.text "second"), letter 'y'),
       (.plain "alloc::string::String" (.text "third"), letter 'z')]),
   .plain "Door" (.object [.property "State" (.getter 1 (.error ⟨"core::fmt::Error", "stuck"⟩))])]

def room : Subject := .plain "Room" (.sequence roomItems)

/-- The entry with the null key counts, so that the dictionary has one entry left. -/
theorem capture_cutHost_room :
    firstTwo.policies = [] ∧ Hint.destructure ≠ .stringify ∧
      firstTwo.capture (firstTwo.cutHost Subject.rings) room .destructure =
        firstTwo.capture Subject.rings room .destructure ∧
      (firstTwo.capture Subject.rings room .destructure).log = [] ∧
      ∃ vs, (firstTwo.capture Subject.rings room .destructure).result = .ok (.sequence vs) ∧
        vs.length = min roomItems.length 2 ∧
        (Value.sequence vs).text .none none = "[[a, b], [(\"second\": y)]]" := by
  have byKind : Hint.destructure ≠ .stringify := nofun
  obtain ⟨cut, -, kept⟩ :=
    capture_cutHost (c := firstTwo) (h := Subject.rings) (a := room) rfl byKind
  have text : (firstTwo.capture Subject.rings room .destructure).result.map (·.text .none none) =
      .ok "[[a, b], [(\"second\": y)]]" := by decide +kernel
  refine ⟨rfl, byKind, cut, by decide +kernel, ?_⟩
  cases captured : (firstTwo.capture Subject.rings room .destructure).result with
  | error e =>
    rw [captured] at text
    contradiction
  | ok v =>
    rw [captured] at text
    have inside := Subject.inside_plain "Room" (.sequence roomItems) nofun
    have shape : (Subject.rings.inside room).shape = .sequence roomItems := by rw [room, inside]
    obtain ⟨vs, rfl, first⟩ := (kept _ _ room v rfl captured).1 roomItems shape
    exact ⟨vs, rfl, first.count 2 rfl, Except.ok.inj text⟩

end Converter

end StructuredLog.Capture
