import Mathlib
import StructuredLog.Capture.TypeDesc

/-!
Full names of types as paths: segments between `::`, any of them with a list of generic arguments,
and perhaps a qualified self before them. What is taken for the name of a type ends at the first
angle bracket. It is the last segment where no bracket stands before that one; otherwise it is the
segment that the first bracket follows, and nothing at all after a qualified self.
-/

namespace StructuredLog.Capture

/-- Angle brackets that close in turn. The arrow of a function type is none of them. -/
inductive Balanced : List Char → Prop
  | nil : Balanced []
  | plain {c cs} : c ≠ '<' → c ≠ '>' → Balanced cs → Balanced (c :: cs)
  | arrow {cs} : Balanced cs → Balanced ('-' :: '>' :: cs)
  | group {inner cs} : Balanced inner → Balanced cs → Balanced ('<' :: (inner ++ '>' :: cs))

/-- Generic arguments, or a qualified self. -/
structure Bracketed where
  inside : List Char
  balanced : Balanced inside

def Bracketed.text (b : Bracketed) : List Char := '<' :: (b.inside ++ ['>'])

/-- Characters that stand between names. -/
def separators : List Char := ['<', '>', ':', '(', ')', '[', ']', '&', '*']

inductive SegmentName where
  | identifier (cs : List Char) (ne_nil : cs ≠ []) (plain : ∀ c ∈ cs, c ∉ '\x7b' :: separators)
  | closure

def SegmentName.text : SegmentName → List Char
  | identifier cs _ _ => cs
  | closure => TypeDesc.closureName

structure Segment where
  name : SegmentName
  arguments? : Option Bracketed := none

def Segment.text (s : Segment) : List Char :=
  s.name.text ++ (s.arguments?.map Bracketed.text).getD []

structure TypePath where
  self? : Option Bracketed := none
  before : List Segment := []
  last : Segment

/-- Segments with `::` between them. -/
def joined : List Segment → Segment → List Char
  | [], last => last.text
  | s :: before, last => s.text ++ ':' :: ':' :: joined before last

namespace TypePath

def text (p : TypePath) : List Char :=
  match p.self? with
  | none => joined p.before p.last
  | some self => self.text ++ ':' :: ':' :: joined p.before p.last

/-- The segment that the first arguments follow; the last one if there are none. -/
def opening (p : TypePath) : Segment := (p.before.find? (·.arguments?.isSome)).getD p.last

/-- What is taken for the name. -/
def shown (p : TypePath) : List Char :=
  match p.self? with
  | none => p.opening.name.text
  | some _ => []

end TypePath

theorem balanced_of_forall_ne {cs : List Char} (none : ∀ c ∈ cs, c ≠ '<' ∧ c ≠ '>') :
    Balanced cs := by
  induction cs with
  | nil => exact .nil
  | cons c cs ih =>
    obtain ⟨first, rest⟩ := List.forall_mem_cons.mp none
    exact .plain first.1 first.2 (ih rest)

/-! ### Names of segments -/

theorem closureName_eq : TypeDesc.closureName =
    ['\x7b', '\x7b', 'c', 'l', 'o', 's', 'u', 'r', 'e', '\x7d', '\x7d'] := by
  decide +kernel

namespace SegmentName

theorem ne_of_mem_text {name : SegmentName} {c d : Char} (mem : c ∈ name.text)
    (separates : d ∈ separators) : c ≠ d := by
  rintro rfl
  cases name with
  | identifier cs ne_nil plain => exact plain c mem (List.mem_cons_of_mem _ separates)
  | closure =>
    have disjoint : TypeDesc.closureName.Disjoint separators := by
      simp [closureName_eq, separators]
    exact disjoint mem separates

theorem exists_cons_text (name : SegmentName) : ∃ c cs, name.text = c :: cs := by
  cases name with
  | identifier cs ne_nil plain => exact List.exists_cons_of_ne_nil ne_nil
  | closure => exact ⟨_, _, closureName_eq⟩

theorem text_injective {name name' : SegmentName} (same : name.text = name'.text) :
    name = name' := by
  have noClosure {cs : List Char} (plain : ∀ c ∈ cs, c ∉ '\x7b' :: separators) :
      cs ≠ TypeDesc.closureName := by
    rintro rfl
    exact plain '\x7b' (by simp [closureName_eq]) List.mem_cons_self
  cases name with
  | identifier cs ne_nil plain =>
    cases name' with
    | identifier => cases same; rfl
    | closure => exact absurd same (noClosure plain)
  | closure =>
    cases name' with
    | identifier cs ne_nil plain => exact absurd same.symm (noClosure plain)
    | closure => rfl

end SegmentName

/-! ### The last segment of what stands before the first bracket -/

/-- What stands behind the last `::`, or all if there is none. -/
def lastPart (cs : List Char) : List Char := ((cutLast? cs).map (·.2)).getD cs

theorem lastPart_of_notMem {cs : List Char} (none : ':' ∉ cs) : lastPart cs = cs := by
  unfold lastPart
  cases cut : cutLast? cs with
  | none => rfl
  | some parts =>
    rw [eq_of_cutLast? cut] at none
    simp at none

theorem lastPart_append {cs : List Char} (noColon : cs.head? ≠ some ':') (before : List Char) :
    lastPart (before ++ ':' :: ':' :: cs) = lastPart cs := by
  have cut : ∃ front, cutLast? (before ++ ':' :: ':' :: cs) = some (front, lastPart cs) := by
    induction before with
    | nil =>
      unfold lastPart
      cases inner : cutLast? cs with
      | some parts => exact ⟨':' :: ':' :: parts.1, by simp [cutLast?, inner]⟩
      | none =>
        -- No separator begins with the second colon.
        have single : cutLast? (':' :: cs) = none := by
          cases cs with
          | nil => rfl
          | cons c cs =>
            have other : c ≠ ':' := fun eq => noColon (by rw [eq, List.head?_cons])
            rw [cutLast?, inner]
            simp [other]
        exact ⟨[], by rw [List.nil_append, cutLast?, single]; rfl⟩
    | cons c before ih =>
      obtain ⟨front, eq⟩ := ih
      exact ⟨c :: front, by simp only [List.cons_append, cutLast?, eq]⟩
  obtain ⟨front, eq⟩ := cut
  rw [lastPart, eq, Option.map_some, Option.getD_some]

/-- A segment up to the first bracket. -/
theorem Segment.takeWhile_text (s : Segment) (rest : List Char) :
    (s.text ++ rest).takeWhile (· ≠ '<') =
      s.name.text ++ if s.arguments?.isSome then [] else rest.takeWhile (· ≠ '<') := by
  have inName : ∀ c ∈ s.name.text, decide (c ≠ '<') = true := fun c mem =>
    decide_eq_true (SegmentName.ne_of_mem_text mem (by decide))
  rw [Segment.text, List.append_assoc, List.takeWhile_append_of_pos inName]
  cases s.arguments? <;> simp [Bracketed.text]

theorem head?_takeWhile_joined_ne (before : List Segment) (last : Segment) :
    ((joined before last).takeWhile (· ≠ '<')).head? ≠ some ':' := by
  have starts (s : Segment) (rest : List Char) :
      ((s.text ++ rest).takeWhile (· ≠ '<')).head? ≠ some ':' := by
    obtain ⟨c, cs, eq⟩ := s.name.exists_cons_text
    have mem : c ∈ s.name.text := by simp [eq]
    rw [s.takeWhile_text, eq, List.cons_append, List.head?_cons, Ne, Option.some_inj]
    exact SegmentName.ne_of_mem_text mem (by decide)
  cases before with
  | nil => simpa [joined] using starts last []
  | cons s before => exact starts s _

theorem lastPart_joined (before : List Segment) (last : Segment) :
    lastPart ((joined before last).takeWhile (· ≠ '<')) =
      ((before.find? (·.arguments?.isSome)).getD last).name.text := by
  have ofName (s : Segment) : lastPart s.name.text = s.name.text :=
    lastPart_of_notMem fun mem => SegmentName.ne_of_mem_text mem (by decide) rfl
  induction before with
  | nil =>
    have upTo := last.takeWhile_text []
    rw [List.append_nil] at upTo
    rw [joined, upTo]
    simpa using ofName last
  | cons s before ih =>
    rw [joined, s.takeWhile_text]
    by_cases arguments : s.arguments?.isSome = true
    · simpa [arguments] using ofName s
    · have colons (cs : List Char) : (':' :: ':' :: cs).takeWhile (· ≠ '<') =
          ':' :: ':' :: cs.takeWhile (· ≠ '<') := by simp
      rw [if_neg arguments, colons, lastPart_append (head?_takeWhile_joined_ne before last), ih,
        List.find?_cons, Bool.eq_false_iff.mpr arguments]

/-! ### Names of types -/

namespace TypePath

variable (p : TypePath)

theorem exists_cons_text :
    ∃ c cs, p.text = c :: cs ∧ ∀ d ∈ separators, d ≠ '<' → c ≠ d := by
  have segment (s : Segment) (rest : List Char) :
      ∃ c cs, s.text ++ rest = c :: cs ∧ ∀ d ∈ separators, d ≠ '<' → c ≠ d := by
    obtain ⟨c, cs, eq⟩ := s.name.exists_cons_text
    have mem : c ∈ s.name.text := by simp [eq]
    refine ⟨c, cs ++ ((s.arguments?.map Bracketed.text).getD [] ++ rest), ?_, ?_⟩
    · rw [Segment.text, eq, List.append_assoc, List.cons_append]
    · exact fun d separates _ => SegmentName.ne_of_mem_text mem separates
  unfold text
  cases p.self? with
  | some self => exact ⟨'<', _, rfl, fun d _ other => other.symm⟩
  | none =>
    cases p.before with
    | nil => simpa [joined] using segment p.last []
    | cons s before => exact segment s _

variable {p} {t : TypeDesc} (isPath : t.fullName = String.ofList p.text)
include isPath

theorem name_eq_shown : t.name = String.ofList p.shown := by
  have chars : t.fullName.toList = p.text := by rw [isPath, String.toList_ofList]
  have hasPath : t.isPathless = false := by
    obtain ⟨c, cs, eq, other⟩ := p.exists_cons_text
    rw [TypeDesc.isPathless, chars, eq]
    simp [other '(' (by decide) (by decide), other '[' (by decide) (by decide),
      other '&' (by decide) (by decide), other '*' (by decide) (by decide)]
  rw [TypeDesc.name, hasPath, TypeDesc.base, chars]
  unfold shown text
  cases p.self? with
  | some self => rfl
  | none => exact congrArg String.ofList (lastPart_joined p.before p.last)

omit isPath in
theorem occursIn_of_notMem {pattern cs : List Char} {c : Char} (inPattern : c ∈ pattern)
    (none : c ∉ cs) : occursIn pattern cs = false := by
  have nonempty : pattern.isEmpty = false := by
    cases pattern with
    | nil => contradiction
    | cons => rfl
  have noPrefix {cs : List Char} (none : c ∉ cs) : pattern.isPrefixOf cs = false := by
    rw [← Bool.not_eq_true, List.isPrefixOf_iff_prefix]
    exact fun start => none (start.mem inPattern)
  induction cs with
  | nil => exact nonempty
  | cons d cs ih =>
    rw [occursIn, noPrefix none, ih (List.not_mem_of_not_mem_cons none), Bool.or_false]

theorem isCompilerGenerated_iff : t.isCompilerGenerated = true ↔
    t.anonymous = true ∨ p.self? = none ∧ p.opening.name = .closure := by
  have chars : t.name.toList = p.shown := by rw [name_eq_shown isPath, String.toList_ofList]
  rw [TypeDesc.isCompilerGenerated, chars, shown]
  cases p.self? with
  | some self => simp [occursIn, closureName_eq]
  | none =>
    cases p.opening.name with
    | closure => simp [SegmentName.text, closureName_eq]
    | identifier cs ne_nil plain =>
      obtain ⟨c, rest, rfl⟩ := List.exists_cons_of_ne_nil ne_nil
      have other := plain c List.mem_cons_self
      have noBrace : '\x7b' ∉ c :: rest := fun mem => plain _ mem List.mem_cons_self
      have noBracket : c ≠ '<' := fun eq => other (by simp [eq, separators])
      have otherBrace : c ≠ '\x7b' := fun eq => other (by simp [eq])
      have noClosure : occursIn TypeDesc.closureName (c :: rest) = false :=
        occursIn_of_notMem (by simp [closureName_eq]) noBrace
      simp [SegmentName.text, noClosure, noBracket, otherBrace]

theorem name_eq_last_iff : t.name = String.ofList p.last.name.text ↔
    p.self? = none ∧ p.opening.name = p.last.name := by
  rw [name_eq_shown isPath, String.ofList_inj, shown]
  cases p.self? with
  | none => exact ⟨fun same => ⟨rfl, SegmentName.text_injective same⟩, fun same => by rw [same.2]⟩
  | some self =>
    obtain ⟨c, cs, eq⟩ := p.last.name.exists_cons_text
    simp [eq]

omit isPath in
theorem opening_eq_last (noArguments : ∀ s ∈ p.before, s.arguments? = none) :
    p.opening = p.last := by
  have none : p.before.find? (·.arguments?.isSome) = none :=
    List.find?_eq_none.mpr fun s mem => by simp [noArguments s mem]
  rw [opening, none, Option.getD_none]

/-! ### Paths that are written out -/

def identifier (cs : List Char) (isName : cs ≠ [] ∧ cs.Disjoint ('\x7b' :: separators)) :
    SegmentName :=
  .identifier cs isName.1 fun _ mem other => isName.2 mem other

def arguments (cs : List Char) (none : ∀ c ∈ cs, c ≠ '<' ∧ c ≠ '>') : Bracketed :=
  ⟨cs, balanced_of_forall_ne none⟩

end TypePath

end StructuredLog.Capture
