import StructuredLog.Json.Quoted
import StructuredLog.Json.Reader
import StructuredLog.Proofs.Text.Run

/-!
What the reader makes of written texts. A text reads as a document if the reader takes it for that
document whatever follows, so that arrays and objects can be put together from texts that do. After
a comma or a colon there may be blanks.
-/

namespace StructuredLog.Json

/-! ### Strings -/

theorem codeUnit?_control {n : Nat} (control : n < 0x20) :
    codeUnit? '0' '0' (Text.hexDigit (n / 16)) (Text.hexDigit (n % 16)) = some n := by
  have high := Text.hexDigit?_hexDigit (n := n / 16) (by omega)
  have low := Text.hexDigit?_hexDigit (n := n % 16) (by omega)
  have zero : Text.hexDigit? '0' = some 0 := by decide
  simp only [codeUnit?, zero, high, low, Option.bind_eq_bind, Option.bind_some, Option.pure_def,
    Option.some.injEq]
  omega

/-- A character that stands for itself. -/
theorem string?_cons {c : Char} (rest : List Char) (noQuote : c ≠ '"') (noSlash : c ≠ '\\')
    (printed : ¬c.toNat < 0x20) : string? (c :: rest) = cons? c (string? rest) := by
  rw [string?.eq_def]
  split <;> simp_all

/-- The written form of a character is read as that character. -/
theorem string?_escape (c : Char) (rest : List Char) :
    string? (escape c ++ rest) = cons? c (string? rest) := by
  unfold escape
  split
  case h_7 noQuote noSlash _ _ _ _ =>
    split
    · next control =>
      have unit := codeUnit?_control control
      simp only [List.cons_append, List.nil_append, string?, unit, Option.bind_eq_bind,
        Option.bind_some]
      rw [if_neg (by omega), if_neg (by omega), Char.ofNat_toNat]
    · next printed => exact string?_cons rest noQuote noSlash printed
  all_goals simp [string?, unescape?]

theorem string?_escaped (s rest : List Char) :
    string? (s.flatMap escape ++ '"' :: rest) = some (s, rest) := by
  induction s with
  | nil => simp [string?]
  | cons c s ih => rw [List.flatMap_cons, List.append_assoc, string?_escape, ih]; rfl

/-! ### Numbers -/

/-- What may stand after a value; a number would go on otherwise. -/
def Ends (rest : List Char) : Prop :=
  ∀ c ∈ rest.head?, c.isDigit = false ∧ c ≠ '.' ∧ c ≠ 'e' ∧ c ≠ 'E'

/-- A number without an exponent. -/
def decimalText (negative : Bool) (whole places : List Char) : List Char :=
  (if negative then ['-'] else []) ++ (whole ++ if places = [] then [] else '.' :: places)

/-- Only zero itself starts with a zero. -/
structure IsWhole (whole : List Char) : Prop where
  ne_nil : whole ≠ []
  isDigit : ∀ d ∈ whole, d.isDigit = true
  noLeadingZero : whole.head? ≠ some '0' ∨ whole.length = 1

def decimalNumber (negative : Bool) (whole places : List Char) : Number :=
  let n := Text.valueFrom 0 whole
  if places = [] ∧ ¬(negative = true ∧ n = 0) then .integer (if negative then -(n : Int) else n)
  else .decimal negative (Text.valueFrom n places) (-places.length)

theorem digits_append {ds rest : List Char} (all : ∀ d ∈ ds, d.isDigit = true)
    (stop : ∀ c ∈ rest.head?, c.isDigit = false) : digits (ds ++ rest) = (ds, rest) := by
  rw [digits, Text.takeWhile_append_stop all stop, Text.dropWhile_append_stop all stop]

theorem fraction?_places {places rest : List Char} (all : ∀ d ∈ places, d.isDigit = true)
    (ends : Ends rest) :
    fraction? ((if places = [] then [] else '.' :: places) ++ rest) = some (places, rest) := by
  split
  · next none =>
    subst none
    rw [List.nil_append]
    unfold fraction?
    split
    · next tail => exact absurd rfl (ends '.' rfl).2.1
    · rfl
  · next some =>
    have stop : ∀ c ∈ rest.head?, c.isDigit = false := fun c mem => (ends c mem).1
    rw [List.cons_append, fraction?, digits_append all stop, if_neg (by simpa using some)]

theorem exponent?_none {rest : List Char} (ends : Ends rest) :
    exponent? rest = some (none, rest) := by
  cases rest with
  | nil => rfl
  | cons c rest =>
    obtain ⟨-, -, noLower, noUpper⟩ := ends c rfl
    simp only [exponent?, noLower, noUpper, or_self, if_false]

theorem IsWhole.head_ne {whole : List Char} (isWhole : IsWhole whole) {c : Char}
    (noDigit : c.isDigit = false) (rest cs : List Char) : whole ++ rest ≠ c :: cs := by
  obtain ⟨d, ds, rfl⟩ := List.exists_cons_of_ne_nil isWhole.ne_nil
  rintro eq
  obtain ⟨rfl, -⟩ := List.cons.inj eq
  rw [isWhole.isDigit d (by simp)] at noDigit
  contradiction

theorem number?_decimalText (negative : Bool) {whole places rest : List Char}
    (isWhole : IsWhole whole) (all : ∀ d ∈ places, d.isDigit = true) (ends : Ends rest) :
    number? (decimalText negative whole places ++ rest) =
      some (decimalNumber negative whole places, rest) := by
  have stop : ∀ c ∈ ((if places = [] then [] else '.' :: places) ++ rest).head?,
      c.isDigit = false := by
    intro c mem
    split at mem
    · exact (ends c mem).1
    · obtain rfl : '.' = c := by simpa using mem
      rfl
  have value : Text.nat? whole = some (Text.valueFrom 0 whole) :=
    if_pos ⟨isWhole.ne_nil, List.all_eq_true.mpr isWhole.isDigit⟩
  unfold number?
  split
  next sign cs eq =>
  -- What is left to read starts with a digit, so that a minus can only be the number's own sign.
  have signed : sign = negative ∧
      cs = whole ++ ((if places = [] then [] else '.' :: places) ++ rest) := by
    unfold decimalText at eq
    cases negative with
    | true => simpa [eq_comm] using eq
    | false =>
      simp only [Bool.false_eq_true, if_false, List.nil_append, List.append_assoc] at eq
      split at eq
      · next minus => exact absurd minus (isWhole.head_ne (by decide) _ _)
      · simpa [eq_comm] using eq
  obtain ⟨rfl, rfl⟩ := signed
  simp only [digits_append isWhole.isDigit stop, value, fraction?_places all ends,
    exponent?_none ends, Option.bind_eq_bind, Option.bind_some, guard, isWhole.noLeadingZero,
    if_true, decimalNumber]
  simp only [List.isEmpty_iff, Option.isNone_none, true_and, Option.getD_none, Int.zero_sub]
  split <;> rfl

/-! ### Values -/

def IsGap (gap : List Char) : Prop := ∀ c ∈ gap, isSpace c = true

theorem skip_gap {gap : List Char} (blank : IsGap gap) (cs : List Char) :
    skip (gap ++ cs) = skip cs :=
  List.dropWhile_append_of_pos blank

theorem skip_cons {c : Char} (noSpace : isSpace c = false) (cs : List Char) :
    skip (c :: cs) = c :: cs := by
  rw [skip, List.dropWhile_cons_of_neg (by simp [noSpace])]

theorem value?_gap {gap : List Char} (blank : IsGap gap) (fuel : Nat) (cs : List Char) :
    value? fuel (gap ++ cs) = value? fuel cs := by
  cases fuel with
  | zero => rfl
  | succ fuel => simp only [value?, skip_gap blank]

theorem items?_gap {gap : List Char} (blank : IsGap gap) (fuel : Nat) (cs : List Char) :
    items? fuel (gap ++ cs) = items? fuel cs := by
  cases fuel with
  | zero => rfl
  | succ fuel => simp only [items?, value?_gap blank]

theorem members?_gap {gap : List Char} (blank : IsGap gap) (fuel : Nat) (cs : List Char) :
    members? fuel (gap ++ cs) = members? fuel cs := by
  cases fuel with
  | zero => rfl
  | succ fuel => simp only [members?, skip_gap blank]

/-- The text is taken for the document, whatever comes after it. It must not look like the end of an
array, which the reader tries first. -/
structure Reads (cs : List Char) (d : Document) : Prop where
  starts : ∃ c cs', cs = c :: cs' ∧ isSpace c = false ∧ c ≠ ']'
  value : ∀ {fuel rest}, 2 * cs.length ≤ fuel → Ends rest →
    value? fuel (cs ++ rest) = some (d, rest)

theorem ends_cons {c : Char} (closes : c = ',' ∨ c = ']' ∨ c = '}') (rest : List Char) :
    Ends (c :: rest) := by
  intro c' mem
  obtain rfl : c = c' := by simpa using mem
  rcases closes with rfl | rfl | rfl <;> decide

theorem Reads.null : Reads "null".toList .null where
  starts := ⟨'n', _, rfl, by decide, by decide⟩
  value {fuel rest} enough _ := by
    obtain ⟨fuel, rfl⟩ := Nat.exists_eq_add_one_of_ne_zero (by simp at enough; omega : fuel ≠ 0)
    rfl

theorem Reads.bool (b : Bool) : Reads (if b then "true" else "false").toList (.bool b) where
  starts := by cases b <;> exact ⟨_, _, rfl, by decide, by decide⟩
  value {fuel rest} enough _ := by
    cases b <;>
    · obtain ⟨fuel, rfl⟩ := Nat.exists_eq_add_one_of_ne_zero (by simp at enough; omega : fuel ≠ 0)
      rfl

theorem toList_quoted (s : String) :
    (quoted s).toList = '"' :: (s.toList.flatMap escape ++ ['"']) := by
  simp [quoted]

theorem Reads.string (s : String) : Reads (quoted s).toList (.string s) where
  starts := ⟨'"', _, toList_quoted s, by decide, by decide⟩
  value {fuel rest} enough _ := by
    rw [toList_quoted] at enough ⊢
    obtain ⟨fuel, rfl⟩ := Nat.exists_eq_add_one_of_ne_zero (by simp at enough; omega : fuel ≠ 0)
    rw [List.cons_append, List.append_assoc, value?, skip_cons (by decide)]
    simp only [List.cons_append, List.nil_append, string?_escaped, Option.map_some,
      String.ofList_toList]

theorem exists_cons_decimalText (negative : Bool) {whole : List Char} (isWhole : IsWhole whole)
    (places : List Char) :
    ∃ c cs, decimalText negative whole places = c :: cs ∧ (c = '-' ∨ c.isDigit = true) := by
  cases negative with
  | true => exact ⟨'-', _, rfl, .inl rfl⟩
  | false =>
    obtain ⟨d, ds, rfl⟩ := List.exists_cons_of_ne_nil isWhole.ne_nil
    exact ⟨d, _, rfl, .inr (isWhole.isDigit d List.mem_cons_self)⟩

theorem opens_number {c : Char} (first : c = '-' ∨ c.isDigit = true) :
    isSpace c = false ∧ c ≠ ']' := by
  rcases first with rfl | digit
  · decide
  refine ⟨Bool.eq_false_iff.mpr fun space => ?_, ?_⟩
  · simp only [isSpace, Bool.or_eq_true, beq_iff_eq] at space
    rcases space with ((rfl | rfl) | rfl) | rfl <;> contradiction
  · rintro rfl
    contradiction

theorem value?_number {c : Char} (first : c = '-' ∨ c.isDigit = true) (fuel : Nat)
    (cs : List Char) :
    value? (fuel + 1) (c :: cs) = (number? (c :: cs)).map fun (n, rest) => (.number n, rest) := by
  rw [value?, skip_cons (opens_number first).1]
  split
  case h_7 => rfl
  all_goals
    next eq =>
    obtain ⟨rfl, -⟩ := List.cons.inj eq
    rcases first with first | first <;> contradiction

theorem Reads.number (negative : Bool) {whole places : List Char} (isWhole : IsWhole whole)
    (all : ∀ d ∈ places, d.isDigit = true) :
    Reads (decimalText negative whole places)
      (.number (decimalNumber negative whole places)) where
  starts := by
    obtain ⟨c, cs, eq, first⟩ := exists_cons_decimalText negative isWhole places
    exact ⟨c, cs, eq, opens_number first⟩
  value {fuel rest} enough ends := by
    obtain ⟨c, cs, eq, first⟩ := exists_cons_decimalText negative isWhole places
    have read := number?_decimalText negative isWhole all ends
    rw [eq] at enough read ⊢
    obtain ⟨fuel, rfl⟩ := Nat.exists_eq_add_one_of_ne_zero (by simp at enough; omega : fuel ≠ 0)
    rw [List.cons_append] at read ⊢
    rw [value?_number first, read]
    rfl

section Lists

variable {gap : List Char} {texts : List (List Char)}

theorem items?_joined {docs : List Document} (blank : IsGap gap)
    (reads : List.Forall₂ Reads texts docs) (ne : texts ≠ []) {fuel : Nat} {rest : List Char}
    (enough : 2 * ((',' :: gap).intercalate texts).length + 1 ≤ fuel) :
    items? fuel ((',' :: gap).intercalate texts ++ ']' :: rest) = some (docs, rest) := by
  -- Each item costs one step and its comma pays for two, so that enough is left for those after it.
  induction reads generalizing fuel with
  | nil => contradiction
  | @cons text doc texts docs head tail ih =>
    obtain ⟨fuel, rfl⟩ := Nat.exists_eq_add_one_of_ne_zero (by omega : fuel ≠ 0)
    cases tail with
    | nil =>
      rw [List.intercalate_singleton] at enough ⊢
      have read := head.value (by omega : 2 * text.length ≤ fuel)
        (ends_cons (.inr (.inl rfl)) rest)
      simp only [items?, read, Option.bind_eq_bind, Option.bind_some]
      rw [skip_cons (by decide)]
      rfl
    | @cons text' doc' texts docs head' tail =>
      rw [List.intercalate_cons_cons] at enough ⊢
      simp only [List.length_append, List.length_cons] at enough
      have later := ih (List.cons_ne_nil _ _) (by omega : _ ≤ fuel)
      have read := head.value (by omega : 2 * text.length ≤ fuel)
        (ends_cons (.inl rfl) (gap ++ ((',' :: gap).intercalate (text' :: texts) ++ ']' :: rest)))
      simp only [items?, List.append_assoc, List.cons_append, read, Option.bind_eq_bind,
        Option.bind_some]
      rw [skip_cons (by decide)]
      simp only [items?_gap blank, later, Option.map_some]

/-- The text of a member: its name, a colon and its value. -/
def ReadsMember (gap cs : List Char) (member : String × Document) : Prop :=
  ∃ text, cs = (quoted member.1).toList ++ ':' :: (gap ++ text) ∧ Reads text member.2

theorem members?_member {cs : List Char} {member : String × Document} (blank : IsGap gap)
    (reads : ReadsMember gap cs member) {fuel : Nat} (enough : 2 * cs.length ≤ fuel) {c : Char}
    (closes : c = ',' ∨ c = '}') (rest : List Char) :
    members? (fuel + 1) (cs ++ c :: rest) =
      if c = ',' then (members? fuel rest).map fun (ms, rest) => (member :: ms, rest)
      else some ([member], rest) := by
  obtain ⟨text, rfl, value⟩ := reads
  rw [toList_quoted] at enough ⊢
  simp only [List.length_append, List.length_cons] at enough
  have ends : Ends (c :: rest) := ends_cons (closes.imp_right .inr) rest
  have read := value.value (by omega : 2 * text.length ≤ fuel) ends
  simp only [members?, List.append_assoc, List.cons_append, List.nil_append]
  rw [skip_cons (by decide)]
  simp only [string?_escaped, Option.bind_eq_bind, Option.bind_some]
  rw [skip_cons (by decide)]
  simp only [value?_gap blank, read, Option.bind_some, String.ofList_toList]
  rcases closes with rfl | rfl
  · rw [skip_cons (by decide)]
    rfl
  · rw [skip_cons (by decide)]
    rfl

theorem members?_joined {members : List (String × Document)} (blank : IsGap gap)
    (reads : List.Forall₂ (ReadsMember gap) texts members) (ne : texts ≠ []) {fuel : Nat}
    {rest : List Char} (enough : 2 * ((',' :: gap).intercalate texts).length + 1 ≤ fuel) :
    members? fuel ((',' :: gap).intercalate texts ++ '}' :: rest) = some (members, rest) := by
  induction reads generalizing fuel with
  | nil => contradiction
  | @cons text member texts members head tail ih =>
    obtain ⟨fuel, rfl⟩ := Nat.exists_eq_add_one_of_ne_zero (by omega : fuel ≠ 0)
    cases tail with
    | nil =>
      rw [List.intercalate_singleton] at enough ⊢
      rw [members?_member blank head (by omega) (.inr rfl)]
      rfl
    | @cons text' member' texts members head' tail =>
      rw [List.intercalate_cons_cons] at enough ⊢
      simp only [List.length_append, List.length_cons] at enough
      have later := ih (List.cons_ne_nil _ _) (by omega : _ ≤ fuel)
      rw [List.append_assoc, List.append_assoc, List.cons_append,
        members?_member blank head (by omega) (.inl rfl), if_pos rfl, members?_gap blank, later]
      rfl

theorem exists_cons_joined {text cs : List Char} {c : Char} (eq : text = c :: cs)
    (sep : List Char) (texts : List (List Char)) :
    ∃ cs', sep.intercalate (text :: texts) = c :: cs' := by
  subst eq
  cases texts with
  | nil => exact ⟨cs, List.intercalate_singleton⟩
  | cons text' texts => exact ⟨_, List.intercalate_cons_cons⟩

theorem Reads.array {docs : List Document} (blank : IsGap gap)
    (reads : List.Forall₂ Reads texts docs) :
    Reads ('[' :: ((',' :: gap).intercalate texts ++ [']'])) (.array docs) where
  starts := ⟨'[', _, rfl, by decide, by decide⟩
  value {fuel rest} enough _ := by
    simp only [List.length_append, List.length_cons] at enough
    obtain ⟨fuel, rfl⟩ := Nat.exists_eq_add_one_of_ne_zero (by omega : fuel ≠ 0)
    rw [List.cons_append, value?, skip_cons (by decide)]
    cases reads with
    | nil => rfl
    | @cons text doc texts docs head tail =>
      obtain ⟨c, cs, eq, noSpace, noClose⟩ := head.starts
      obtain ⟨cs', opens⟩ := exists_cons_joined eq (',' :: gap) texts
      have read : items? fuel (_ ++ ']' :: rest) = _ :=
        items?_joined blank (.cons head tail) (List.cons_ne_nil _ _) (by omega)
      simp only [List.append_assoc, List.cons_append, List.nil_append, opens] at read ⊢
      rw [skip_cons noSpace]
      split
      · next eq => exact absurd (List.cons.inj eq).1 noClose
      · rw [read]
        rfl

theorem Reads.object {members : List (String × Document)} (blank : IsGap gap)
    (reads : List.Forall₂ (ReadsMember gap) texts members) :
    Reads ('{' :: ((',' :: gap).intercalate texts ++ ['}'])) (.object members) where
  starts := ⟨'{', _, rfl, by decide, by decide⟩
  value {fuel rest} enough _ := by
    simp only [List.length_append, List.length_cons] at enough
    obtain ⟨fuel, rfl⟩ := Nat.exists_eq_add_one_of_ne_zero (by omega : fuel ≠ 0)
    rw [List.cons_append, value?, skip_cons (by decide)]
    cases reads with
    | nil => rfl
    | @cons text member texts members head tail =>
      have ⟨text', eq, _⟩ := head
      rw [toList_quoted, List.cons_append] at eq
      obtain ⟨cs', opens⟩ := exists_cons_joined eq (',' :: gap) texts
      have read : members? fuel (_ ++ '}' :: rest) = _ :=
        members?_joined blank (.cons head tail) (List.cons_ne_nil _ _) (by omega)
      simp only [List.append_assoc, List.cons_append, List.nil_append, opens] at read ⊢
      rw [skip_cons (by decide)]
      simp only [read, Option.map_some]
      rfl

end Lists

theorem isGap_nil : IsGap [] := fun _ mem => absurd mem List.not_mem_nil

theorem ends_gap {gap : List Char} (blank : IsGap gap) : Ends gap := by
  intro c mem
  have space := blank c (List.mem_of_mem_head? mem)
  simp only [isSpace, Bool.or_eq_true, beq_iff_eq] at space
  rcases space with ((rfl | rfl) | rfl) | rfl <;> decide

/-- Blanks may follow a document. -/
theorem parse?_of_reads_gap {s : String} {cs gap : List Char} {d : Document}
    (text : s.toList = cs ++ gap) (reads : Reads cs d) (blank : IsGap gap) :
    Document.parse? s = some d := by
  have read : value? (2 * s.toList.length + 1) s.toList = some (d, gap) := by
    rw [text]
    refine reads.value ?_ (ends_gap blank)
    rw [List.length_append]
    omega
  have skipped : skip gap = [] := by
    rw [← List.append_nil gap, skip_gap blank]
    rfl
  simp only [Document.parse?, read, skipped, List.isEmpty_nil, if_true]

/-- A text that reads as a document is that document as a whole. -/
theorem parse?_of_reads {s : String} {d : Document} (reads : Reads s.toList d) :
    Document.parse? s = some d :=
  parse?_of_reads_gap (List.append_nil _).symm reads isGap_nil

end StructuredLog.Json
