import StructuredLog.Capture.Bytes
import StructuredLog.Capture.Policy
import StructuredLog.Capture.Standard
import StructuredLog.Value.Text

/-!
Capture: the values of a host become trees of scalars, sequences, records and dictionaries. The hint
says whether a value is taken by its kind, by its members, or as text alone. Beyond the depth limit
every value is null, so a capture ends on cyclic values as well.
-/

namespace StructuredLog.Capture

/-- Bounds on what a capture keeps; an absent one is no bound. -/
structure Limits where
  depth : Nat := 10
  textLength : Option Nat := none
  itemCount : Option Nat := none
  deriving DecidableEq, Repr

inductive LimitError where
  | textLength (actual : Nat)
  | itemCount (actual : Nat)
  deriving DecidableEq, Repr

def LimitError.message : LimitError → String
  | textLength n => "max_string_length must be at least 2, got " ++ toString n
  | itemCount n => "max_collection_count must be at least 1, got " ++ toString n

/-- A text of one character and an ellipsis, and one item, are the least that can be kept. -/
def Limits.check (l : Limits) : Except LimitError Unit :=
  match l.textLength.filter (· < 2), l.itemCount.filter (· < 1) with
  | some n, _ => .error (.textLength n)
  | none, some n => .error (.itemCount n)
  | none, none => .ok ()

/-- Whether maps with such keys can be dictionaries, given further types that were registered. -/
def TypeDesc.isKey (registered : List String) (t : TypeDesc) : Bool :=
  t.isEnum || Standard.scalars.contains t.fullName || registered.contains t.fullName

structure Converter (α : Type) where
  limits : Limits := {}
  /-- Types that are captured as the text that their values give themselves. -/
  scalarTypes : List String := []
  /-- Types of maps that are dictionaries though they are no standard maps. -/
  dictionaryTypes : List String := []
  /-- The first policy that does not pass decides. -/
  policies : List (Policy α) := []
  /-- Whether a property that cannot be read fails the capture; else a text tells of it. -/
  strict : Bool := false

/-- How the parts of a value are captured, where the value lies at some depth. -/
structure Nested (α : Type) where
  depth : Nat
  value : α → Hint → Outcome Value
  text : String → Outcome Value

namespace Nested

/-- At the last level parts are null. -/
def cutOff (depth : Nat) : Nested α :=
  ⟨depth, fun _ _ => ⟨[.depthReached], [], .ok .null⟩, fun _ => ⟨[.depthReached], [], .ok .null⟩⟩

def consult (nested : Nested α) (a : α) : List (Policy α) → Outcome (Option Value)
  | [] => .pure none
  | p :: ps => ((p nested.depth a).run nested.value).bind fun
    | some v => .pure (some v)
    | none => consult nested a ps

end Nested

namespace Converter

/-- A text that is too long ends in an ellipsis. -/
def truncate (c : Converter α) (s : String) : String :=
  match c.limits.textLength with
  | none => s
  | some n => if s.length ≤ n then s else String.ofList (s.toList.take (n - 1)) ++ "…"

def keep (c : Converter α) (items : List β) : List β :=
  match c.limits.itemCount with
  | none => items
  | some n => items.take n

/-- The scalar that a value is captured as, unless its parts are. -/
def scalar? (c : Converter α) (l : Look α) (hint : Hint) : Option Scalar :=
  match l.shape, hint with
  | .null, _ => some .null
  | _, .stringify => some (.string (c.truncate l.text))
  | .scalar s, _ => some s
  | .text s, .destructure => some (.string (c.truncate s))
  | .text s, .default => some (.string s)
  | shape, _ =>
    if c.scalarTypes.contains l.registeredAs then some (.other l.text)
    else match shape with
      | .variant name => some (.variant name)
      | .bytes data => some (.string (bytesText data))
      | _ => none

/-- What a property supplies. -/
def source (c : Converter α) (nested : Nested α) (typeName name : String) :
    Source α → Outcome Value
  | .field a => nested.value a .destructure
  | .getter accessor (.ok a) => (Outcome.call accessor).bind fun _ => nested.value a .destructure
  | .getter accessor (.error e) => (Outcome.call accessor).bind fun _ =>
    (Outcome.emit (.accessorFailed name e.text)).bind fun _ =>
      if c.strict then .fail (.accessor typeName name e.text)
      else nested.text ("The property accessor threw an exception: " ++
        (TypeDesc.mk e.typeName false false).name)
  | .unsupported => (Outcome.emit (.accessorUnsupported name typeName)).bind fun _ =>
    if c.strict then .fail (.unsupported typeName name)
    else nested.text "Accessing this property is not supported"

/-- Indexers are reported even after an error. -/
def skipped (typeName : String) (ms : List (Member α)) : List Diagnostic :=
  ms.filterMap fun
    | .indexer name => some (.indexerSkipped name typeName)
    | .property _ _ => none

/-- The first property of each name; those of names taken before are not read. -/
def members (c : Converter α) (nested : Nested α) (typeName : String) :
    List (Member α) → List String → Outcome (List (String × Value))
  | [], _ => .pure []
  | .indexer name :: ms, taken =>
    (Outcome.emit (.indexerSkipped name typeName)).bind fun _ =>
      c.members nested typeName ms taken
  | .property name source :: ms, taken =>
    if taken.contains name then c.members nested typeName ms taken
    else ((c.source nested typeName name source).orLog (skipped typeName ms)).bind fun v =>
      (c.members nested typeName ms (name :: taken)).bind fun rest => .pure ((name, v) :: rest)

/-- An entry of a dictionary. A null key drops the entry with its value uncaptured; a key that is no
scalar is replaced by its text. -/
def entry (nested : Nested α) (hint : Hint) (e : α × α) : Outcome (Option (Scalar × Value)) :=
  (nested.value e.1 hint).bind fun key =>
    match key with
    | .scalar .null => .pure none
    | key =>
      (nested.value e.2 hint).bind fun v =>
        .pure (some (key.scalar?.getD (.string (key.text .none none)), v))

def pair (nested : Nested α) (hint : Hint) (e : α × α) : Outcome Value :=
  (nested.value e.1 hint).bind fun key =>
    (nested.value e.2 hint).bind fun v => .pure (.sequence [key, v])

def isDictionary (c : Converter α) (l : Look α) (key : TypeDesc) (standard : Bool) : Bool :=
  (standard || c.dictionaryTypes.contains l.registeredAs) && key.isKey c.scalarTypes

/-- A value that is no scalar, by its parts. -/
def parts (c : Converter α) (nested : Nested α) (l : Look α) (hint : Hint) : Outcome Value :=
  match l.shape with
  | .sequence items =>
    (Outcome.each (nested.value · hint) (c.keep items)).bind fun vs => .pure (.sequence vs)
  | .tuple items =>
    (Outcome.each (nested.value · hint) items).bind fun vs => .pure (.sequence vs)
  | .map key standard entries =>
    if c.isDictionary l key standard then
      (Outcome.each (entry nested hint) (c.keep entries)).bind fun es =>
        .pure (.dictionary (es.filterMap id))
    else
      (Outcome.each (pair nested hint) (c.keep entries)).bind fun vs => .pure (.sequence vs)
  | .object ms =>
    if hint = .destructure then
      (c.members nested l.type.fullName ms []).bind fun vs =>
        .pure (.record (if l.type.isCompilerGenerated then none else some l.type.name) vs)
    else .pure (.scalar (.string l.text))
  | .typeInfo =>
    .pure (.scalar (if hint = .destructure then .other l.text else .string l.text))
  | _ => .pure (.scalar (.string l.text))

/-- The capture of a value, given that of its parts. Policies are asked only to destructure what is
no scalar. -/
def step (c : Converter α) (h : Host α) (nested : Nested α) (a : α) (hint : Hint) :
    Outcome Value :=
  let l := h.inside a
  match c.scalar? l hint with
  | some s => .pure (.scalar s)
  | none =>
    if hint = .destructure then
      (nested.consult (h.unwrap a) c.policies).bind fun
        | some v => .pure v
        | none => c.parts nested l hint
    else c.parts nested l hint

/-- The capture of a value at some depth, with a number of levels left below it. -/
def captureAt (c : Converter α) (h : Host α) : (levels depth : Nat) → α → Hint → Outcome Value
  | 0, depth => c.step h (.cutOff depth)
  | levels + 1, depth => c.step h
    ⟨depth, c.captureAt h levels (depth + 1), fun s => .pure (.scalar (.string (c.truncate s)))⟩

def capture (c : Converter α) (h : Host α) (a : α) (hint : Hint) : Outcome Value :=
  c.captureAt h (c.limits.depth - 1) 1 a hint

end Converter

end StructuredLog.Capture
