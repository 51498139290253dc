import StructuredLog.Proofs.Text.Run
import StructuredLog.Scalar.Format

/-!
Integers in the standard formats. The decimal formats write a sign and the magnitude, the
hexadecimal ones the residue of the value modulo the size of its kind. Each text can be read back,
at both ends of every kind as well.
-/

namespace StructuredLog

-- Powers are the core library's, also where others are in scope.
attribute [local instance (2000)] instPowNat

/-! ### Numerals -/

structure Alphabet where
  glyphs : List Char
  nodup : glyphs.Nodup
  zero : glyphs.head? = some '0'

namespace Alphabet

def decimal : Alphabet :=
  ⟨['0', '1', '2', '3', '4', '5', '6', '7', '8', '9'], by decide, rfl⟩

def upperHex : Alphabet :=
  ⟨['0', '1', '2', '3', '4', '5', '6', '7', '8', '9', 'A', 'B', 'C', 'D', 'E', 'F'], by decide, rfl⟩

def lowerHex : Alphabet :=
  ⟨['0', '1', '2', '3', '4', '5', '6', '7', '8', '9', 'a', 'b', 'c', 'd', 'e', 'f'], by decide, rfl⟩

/-- Positional notation. Only zero itself starts with a zero. -/
inductive Numeral (alphabet : Alphabet) : Nat → List Char → Prop
  | digit {k} (bound : k < alphabet.glyphs.length) : Numeral alphabet k [alphabet.glyphs[k]]
  | next {n ds k} (bound : k < alphabet.glyphs.length) : 0 < n → Numeral alphabet n ds →
      Numeral alphabet (alphabet.glyphs.length * n + k) (ds ++ [alphabet.glyphs[k]])

/-- The number that digits denote. -/
def denoted (alphabet : Alphabet) (ds : List Char) : Nat :=
  ds.foldl (fun n d => alphabet.glyphs.length * n + alphabet.glyphs.idxOf d) 0

section

variable {alphabet : Alphabet} {n : Nat} {ds : List Char}

theorem Numeral.denoted_eq (numeral : alphabet.Numeral n ds) : alphabet.denoted ds = n := by
  induction numeral with
  | digit bound => simp [denoted, alphabet.nodup.idxOf_getElem]
  | next bound _ _ ih =>
    rw [denoted] at ih
    rw [denoted, List.foldl_append, ih, List.foldl_cons, List.foldl_nil,
      alphabet.nodup.idxOf_getElem]

theorem Numeral.ne_nil (numeral : alphabet.Numeral n ds) : ds ≠ [] := by
  cases numeral with
  | digit => exact List.cons_ne_nil _ _
  | next => exact List.append_ne_nil_of_right_ne_nil _ (List.cons_ne_nil _ _)

theorem Numeral.mem_glyphs (numeral : alphabet.Numeral n ds) : ∀ d ∈ ds, d ∈ alphabet.glyphs := by
  induction numeral with
  | digit bound => exact List.forall_mem_singleton.mpr (List.getElem_mem bound)
  | next bound _ _ ih =>
    exact List.forall_mem_append.mpr
      ⟨ih, List.forall_mem_singleton.mpr (List.getElem_mem bound)⟩

theorem denoted_zeros (alphabet : Alphabet) (count : Nat) (ds : List Char) :
    alphabet.denoted (List.replicate count '0' ++ ds) = alphabet.denoted ds := by
  have zero : alphabet.glyphs.idxOf '0' = 0 := by
    obtain ⟨rest, glyphs⟩ := List.head?_eq_some_iff.mp alphabet.zero
    rw [glyphs, List.idxOf_cons_self]
  induction count with
  | zero => rfl
  | succ count ih =>
    rw [← ih, denoted, denoted, List.replicate_succ, List.cons_append, List.foldl_cons, zero,
      Nat.mul_zero]

/-- Digits may be written with other characters than the core library's. -/
theorem numeral_toDigits {base : Nat} {glyph : Char → Char} (large : 1 < base)
    (glyphs : alphabet.glyphs = (List.range base).map fun k => glyph (Nat.digitChar k)) (n : Nat) :
    alphabet.Numeral n ((Nat.toDigits base n).map glyph) := by
  have length : alphabet.glyphs.length = base := by rw [glyphs, List.length_map, List.length_range]
  have digit {k : Nat} (bound : k < alphabet.glyphs.length) :
      glyph (Nat.digitChar k) = alphabet.glyphs[k] := by simp [glyphs]
  induction n using Nat.strongRecOn with
  | ind n ih =>
    rcases Nat.lt_or_ge n base with small | big
    · rw [Nat.toDigits_of_lt_base small, List.map_singleton, digit (length ▸ small)]
      exact .digit _
    · have pos : 0 < n / base := Nat.div_pos big (by omega)
      have bound : n % base < alphabet.glyphs.length := length ▸ Nat.mod_lt n (by omega)
      have numeral := Numeral.next bound pos (ih (n / base) (Nat.div_lt_self (by omega) large))
      rw [length, Nat.div_add_mod] at numeral
      rw [Nat.toDigits_of_base_le large big, List.map_append, List.map_singleton, digit bound]
      exact numeral

end

end Alphabet

/-! ### Groups of three -/

/-- A comma before every group of three digits from the right but the first. -/
inductive Grouped : List Char → List Char → Prop
  | first {ds} : 1 ≤ ds.length → ds.length ≤ 3 → Grouped ds ds
  | group {ds text g} : g.length = 3 → Grouped ds text → Grouped (ds ++ g) (text ++ ',' :: g)

theorem filter_ne_comma {ds : List Char} (noComma : ',' ∉ ds) : ds.filter (· ≠ ',') = ds :=
  List.filter_eq_self.mpr fun _ mem => decide_eq_true (ne_of_mem_of_not_mem mem noComma)

namespace Grouped

variable {ds text : List Char}

theorem mem (grouped : Grouped ds text) : ∀ c ∈ text, c ∈ ds ∨ c = ',' := by
  induction grouped with
  | first => exact fun _ => .inl
  | group _ _ ih =>
    simp only [List.mem_append, List.mem_cons]
    rintro c (mem | rfl | mem)
    · exact (ih c mem).imp .inl id
    · exact .inr rfl
    · exact .inl (.inr mem)

theorem filter_eq (grouped : Grouped ds text) (noComma : ',' ∉ ds) :
    text.filter (· ≠ ',') = ds := by
  induction grouped with
  | first => exact filter_ne_comma noComma
  | group _ _ ih =>
    rw [List.mem_append, not_or] at noComma
    rw [List.filter_append, ih noComma.1, List.filter_cons_of_neg (by simp),
      filter_ne_comma noComma.2]

end Grouped

theorem groupThousands_of_le {ds : List Char} (short : ds.length ≤ 3) : groupThousands ds = ds := by
  match ds with
  | [] | [_] | [_, _] | [_, _, _] => rfl
  | _ :: _ :: _ :: _ :: _ => simp at short; omega

theorem groupThousands_append {ds g : List Char} (nonempty : ds ≠ []) (three : g.length = 3) :
    groupThousands (ds ++ g) = groupThousands ds ++ ',' :: g := by
  induction ds with
  | nil => contradiction
  | cons d ds ih =>
    rw [List.cons_append, groupThousands, groupThousands]
    by_cases last : ds = []
    · subst last
      have full : g ≠ [] := List.ne_nil_of_length_pos (by omega)
      rw [List.nil_append, if_pos ⟨full, by omega⟩, if_neg (by simp),
        groupThousands_of_le (by omega)]
      rfl
    · have same : (ds ++ g ≠ [] ∧ (ds ++ g).length % 3 = 0) ↔ (ds ≠ [] ∧ ds.length % 3 = 0) := by
        rw [List.length_append, three, Nat.add_mod_right]
        exact and_congr_left fun _ => iff_of_true (by simp [last]) last
      simp only [same, ih last]
      split <;> rfl

theorem grouped_groupThousands {ds : List Char} (nonempty : ds ≠ []) :
    Grouped ds (groupThousands ds) := by
  induction length : ds.length using Nat.strongRecOn generalizing ds with
  | ind n ih =>
    rcases Nat.lt_or_ge 3 ds.length with long | short
    · have front : (ds.take (ds.length - 3)).length = ds.length - 3 := by
        rw [List.length_take]; omega
      have back : (ds.drop (ds.length - 3)).length = 3 := by rw [List.length_drop]; omega
      have frontNonempty : ds.take (ds.length - 3) ≠ [] := List.ne_nil_of_length_pos (by omega)
      rw [← List.take_append_drop (ds.length - 3) ds, groupThousands_append frontNonempty back]
      exact .group back (ih _ (by omega) frontNonempty rfl)
    · rw [groupThousands_of_le short]
      exact .first (List.length_pos_iff.mpr nonempty) short

/-! ### Texts of integers -/

namespace Integer

def minus (n : Int) : List Char := if n < 0 then ['-'] else []

/-- No point stands before no places. -/
def places (count : Nat) : List Char := if count = 0 then [] else '.' :: List.replicate count '0'

/-- What stands in a format after the letter. -/
inductive Precision : List Char → Option Nat → Prop
  | absent : Precision [] none
  | one {k} (bound : k < 10) : Precision [Alphabet.decimal.glyphs[k]] (some k)
  | two {j k} (tens : j < 10) (ones : k < 10) :
      Precision [Alphabet.decimal.glyphs[j], Alphabet.decimal.glyphs[k]] (some (10 * j + k))

inductive Written (n : Integer) (precision : Option Nat) : Char → List Char → Prop
  | padded {letter ds} :
      letter = 'D' ∨ letter = 'd' → Alphabet.decimal.Numeral n.value.natAbs ds →
      Written n precision letter
        (minus n.value ++ (List.replicate (precision.getD 0 - ds.length) '0' ++ ds))
  | fixed {letter ds} :
      letter = 'F' ∨ letter = 'f' → Alphabet.decimal.Numeral n.value.natAbs ds →
      Written n precision letter (minus n.value ++ (ds ++ places (precision.getD 2)))
  | grouped {letter ds text} :
      letter = 'N' ∨ letter = 'n' → Alphabet.decimal.Numeral n.value.natAbs ds → Grouped ds text →
      Written n precision letter (minus n.value ++ (text ++ places (precision.getD 2)))
  | upperHex {ds} :
      Alphabet.upperHex.Numeral (n.value % (2 ^ n.kind.bits : Nat)).toNat ds →
      Written n precision 'X' (List.replicate (precision.getD 0 - ds.length) '0' ++ ds)
  | lowerHex {ds} :
      Alphabet.lowerHex.Numeral (n.value % (2 ^ n.kind.bits : Nat)).toNat ds →
      Written n precision 'x' (List.replicate (precision.getD 0 - ds.length) '0' ++ ds)

/-! ### Reading -/

/-- Commas are passed over, and all from the point on. -/
def readMagnitude (text : List Char) : Nat :=
  Alphabet.decimal.denoted ((text.takeWhile (· ≠ '.')).filter (· ≠ ','))

def readDecimal : List Char → Int
  | '-' :: text => -(readMagnitude text : Int)
  | text => readMagnitude text

/-- The member of a kind with a residue: in the upper half of a signed kind a negative one. -/
def ofResidue (kind : IntKind) (residue : Nat) : Int :=
  if kind.isSigned ∧ 2 ^ (kind.bits - 1) ≤ residue then residue - (2 ^ kind.bits : Nat) else residue

/-- The integer of a kind that a text in a format denotes. -/
def read (kind : IntKind) (letter : Char) (text : List Char) : Int :=
  if letter = 'X' then ofResidue kind (Alphabet.upperHex.denoted text)
  else if letter = 'x' then ofResidue kind (Alphabet.lowerHex.denoted text)
  else readDecimal text

theorem readDecimal_minus {n : Int} {text : List Char} (unsigned : '-' ∉ text)
    (magnitude : readMagnitude text = n.natAbs) : readDecimal (minus n ++ text) = n := by
  unfold minus
  split
  · rw [List.singleton_append, readDecimal, magnitude]
    omega
  · rw [List.nil_append, readDecimal.eq_2 text fun rest eq => unsigned (by simp [eq]), magnitude]
    omega

theorem readDecimal_written {n : Int} {whole ds : List Char} (count : Nat)
    (chars : ∀ c ∈ whole, c ∈ Alphabet.decimal.glyphs ∨ c = ',')
    (digits : whole.filter (· ≠ ',') = ds) (value : Alphabet.decimal.denoted ds = n.natAbs) :
    readDecimal (minus n ++ (whole ++ places count)) = n := by
  have without {c : Char} (other : ¬(c ∈ Alphabet.decimal.glyphs ∨ c = ',')) : c ∉ whole :=
    fun mem => other (chars c mem)
  have noPoint : '.' ∉ whole := without (by decide)
  have noMinus : '-' ∉ whole := without (by decide)
  refine readDecimal_minus ?_ ?_
  · unfold places
    split <;> simp [noMinus]
  · rw [readMagnitude, Text.takeWhile_append_stop, digits, value]
    · exact fun c mem => decide_eq_true (ne_of_mem_of_not_mem mem noPoint)
    · unfold places
      split <;> simp

theorem ofResidue_mod {kind : IntKind} {value : Int}
    (inRange : kind.least ≤ value ∧ value ≤ kind.greatest) :
    ofResidue kind (value % (2 ^ kind.bits : Nat)).toNat = value := by
  unfold IntKind.least IntKind.greatest at inRange
  unfold ofResidue
  -- The size of each kind is a numeral, so that the remainder is one that `omega` knows.
  cases kind <;> norm_num [IntKind.isSigned, IntKind.bits] at inRange ⊢ <;> omega

theorem comma_notMem {ds : List Char} (digits : ∀ d ∈ ds, d ∈ Alphabet.decimal.glyphs) :
    ',' ∉ ds := fun mem => absurd (digits ',' mem) (by decide)

theorem readDecimal_digits {n : Int} {ds : List Char} (count : Nat)
    (digits : ∀ d ∈ ds, d ∈ Alphabet.decimal.glyphs)
    (value : Alphabet.decimal.denoted ds = n.natAbs) :
    readDecimal (minus n ++ (ds ++ places count)) = n :=
  readDecimal_written count (fun c mem => .inl (digits c mem))
    (filter_ne_comma (comma_notMem digits)) value

theorem read_eq_readDecimal {letter : Char} (other : letter ≠ 'X' ∧ letter ≠ 'x') (kind : IntKind)
    (text : List Char) : read kind letter text = readDecimal text := by
  rw [read, if_neg other.1, if_neg other.2]

theorem read_written {n : Integer} {precision : Option Nat} {letter : Char} {text : List Char}
    (written : Written n precision letter text) : read n.kind letter text = n.value := by
  cases written with
  | @padded _ ds decimal numeral =>
    have digits : ∀ d ∈ List.replicate (precision.getD 0 - ds.length) '0' ++ ds,
        d ∈ Alphabet.decimal.glyphs := by
      refine List.forall_mem_append.mpr ⟨fun d mem => ?_, numeral.mem_glyphs⟩
      rw [List.eq_of_mem_replicate mem]
      decide
    have value := (Alphabet.denoted_zeros .decimal (precision.getD 0 - ds.length) ds).trans
      numeral.denoted_eq
    have text := readDecimal_digits 0 digits value
    rw [places, if_pos rfl, List.append_nil] at text
    rwa [read_eq_readDecimal (by rcases decimal with rfl | rfl <;> decide)]
  | fixed decimal numeral =>
    rw [read_eq_readDecimal (by rcases decimal with rfl | rfl <;> decide)]
    exact readDecimal_digits _ numeral.mem_glyphs numeral.denoted_eq
  | grouped decimal numeral grouped =>
    rw [read_eq_readDecimal (by rcases decimal with rfl | rfl <;> decide)]
    exact readDecimal_written _ (fun c mem => (grouped.mem c mem).imp_left (numeral.mem_glyphs c))
      (grouped.filter_eq (comma_notMem numeral.mem_glyphs)) numeral.denoted_eq
  | upperHex numeral =>
    rw [read, if_pos rfl, Alphabet.denoted_zeros, numeral.denoted_eq, ofResidue_mod n.inRange]
  | lowerHex numeral =>
    rw [read, if_neg (by decide), if_pos rfl, Alphabet.denoted_zeros, numeral.denoted_eq,
      ofResidue_mod n.inRange]

/-! ### Writing -/

theorem toList_zeroFill (width : Nat) (ds : List Char) :
    (Text.zeroFill width (String.ofList ds)).toList =
      List.replicate (width - ds.length) '0' ++ ds := by
  simp [Text.zeroFill]

theorem toList_sign (n : Integer) : n.sign.toList = minus n.value := by
  unfold sign minus
  split <;> rfl

theorem toList_withPlaces (whole : List Char) (count : Nat) :
    (withPlaces whole (List.replicate count '0')).toList = whole ++ places count := by
  cases count <;> simp [withPlaces, places, List.replicate_succ]

theorem numeral_magnitude (n : Nat) : Alphabet.decimal.Numeral n (toString n).toList := by
  have numeral : Alphabet.decimal.Numeral n ((Nat.toDigits 10 n).map id) :=
    Alphabet.numeral_toDigits (by decide) (by decide) n
  rwa [List.map_id, ← String.toList_ofList (l := Nat.toDigits 10 n),
    ← Nat.toString_eq_ofList_toDigits] at numeral

theorem numeral_lowerHex (n : Nat) : Alphabet.lowerHex.Numeral n (Nat.toDigits 16 n) := by
  have numeral : Alphabet.lowerHex.Numeral n ((Nat.toDigits 16 n).map id) :=
    Alphabet.numeral_toDigits (by decide) (by decide) n
  rwa [List.map_id] at numeral

theorem numeral_upperHex (n : Nat) :
    Alphabet.upperHex.Numeral n ((Nat.toDigits 16 n).map Char.toUpper) :=
  Alphabet.numeral_toDigits (by decide) (by decide) n

theorem hexDigits_eq (n : Integer) :
    n.hexDigits = Nat.toDigits 16 (n.value % (2 ^ n.kind.bits : Nat)).toNat := by
  rw [hexDigits, Int.natCast_pow]
  rfl

theorem exists_written (n : Integer) (precision : Option Nat) {letter : Char}
    (known : letter ∈ ['D', 'd', 'F', 'f', 'N', 'n', 'X', 'x']) :
    ∃ s, n.format? ⟨letter, precision⟩ = some s ∧ Written n precision letter s.toList := by
  have magnitude := numeral_magnitude n.value.natAbs
  unfold format?
  dsimp only
  split
  · next padded =>
    refine ⟨_, rfl, ?_⟩
    rw [String.toList_append, toList_sign, Text.padded,
      ← String.ofList_toList (s := toString n.value.natAbs), toList_zeroFill]
    exact .padded padded magnitude
  split
  · next isUpper =>
    subst isUpper
    refine ⟨_, rfl, ?_⟩
    rw [toList_zeroFill, hexDigits_eq]
    exact .upperHex (numeral_upperHex _)
  split
  · next isLower =>
    subst isLower
    refine ⟨_, rfl, ?_⟩
    rw [toList_zeroFill, hexDigits_eq]
    exact .lowerHex (numeral_lowerHex _)
  split
  · next fixed =>
    refine ⟨_, rfl, ?_⟩
    rw [String.toList_append, toList_sign, toList_withPlaces]
    exact .fixed fixed magnitude
  split
  · next grouped =>
    refine ⟨_, rfl, ?_⟩
    rw [String.toList_append, toList_sign, toList_withPlaces]
    exact .grouped grouped magnitude (grouped_groupThousands magnitude.ne_nil)
  · simp only [List.mem_cons, List.not_mem_nil] at known
    tauto

theorem isAlpha_of_known :
    ∀ letter ∈ ['D', 'd', 'F', 'f', 'N', 'n', 'X', 'x'], letter.isAlpha = true := by
  simp

theorem nat?_one : ∀ k, (bound : k < 10) → Text.nat? [Alphabet.decimal.glyphs[k]] = some k := by
  decide

theorem nat?_two : ∀ j, (tens : j < 10) → ∀ k, (ones : k < 10) →
    Text.nat? [Alphabet.decimal.glyphs[j], Alphabet.decimal.glyphs[k]] = some (10 * j + k) := by
  decide

theorem ofString?_of_precision {letter : Char} (isAlpha : letter.isAlpha = true)
    {digits : List Char} {precision : Option Nat} (isPrecision : Precision digits precision) :
    StandardFormat.ofString? (String.ofList (letter :: digits)) = some ⟨letter, precision⟩ := by
  unfold StandardFormat.ofString?
  rw [String.toList_ofList]
  cases isPrecision with
  | absent => simp [isAlpha]
  | one bound => simp [isAlpha, nat?_one _ bound]
  | two tens ones => simp [isAlpha, nat?_two _ tens _ ones]

end Integer

/-- An integer in a known format is written as the format says, and reads back. -/
theorem Scalar.formatted_integer (n : Integer) {letter : Char} {digits : List Char}
    {precision : Option Nat} (known : letter ∈ ['D', 'd', 'F', 'f', 'N', 'n', 'X', 'x'])
    (isPrecision : Integer.Precision digits precision) :
    let text := ((Scalar.integer n).formatted (some (String.ofList (letter :: digits)))).toList
    n.Written precision letter text ∧ Integer.read n.kind letter text = n.value := by
  obtain ⟨s, format, written⟩ := n.exists_written precision known
  have isAlpha : letter.isAlpha = true := Integer.isAlpha_of_known letter known
  have formatted : (Scalar.integer n).formatted (some (String.ofList (letter :: digits))) = s := by
    rw [Scalar.formatted, Option.bind_some, Scalar.format?,
      Integer.ofString?_of_precision isAlpha isPrecision, Option.bind_eq_bind, Option.bind_some,
      format, Option.getD_some]
  intro text
  rw [show text = s.toList from congrArg String.toList formatted]
  exact ⟨written, Integer.read_written written⟩

theorem Scalar.formatted_least :
    let least : Integer := ⟨.i64, IntKind.i64.least, by decide⟩
    let text := ((Scalar.integer least).formatted (some (String.ofList ['N', '0']))).toList
    'N' ∈ ['D', 'd', 'F', 'f', 'N', 'n', 'X', 'x'] ∧ Integer.Precision ['0'] (some 0) ∧
      least.Written (some 0) 'N' text ∧ Integer.read .i64 'N' text = IntKind.i64.least :=
  have precision : Integer.Precision ['0'] (some 0) := .one (k := 0) (by decide)
  ⟨by decide, precision, Scalar.formatted_integer _ (by decide) precision⟩

example : (Scalar.integer ⟨.i64, IntKind.i64.least, by decide⟩).formatted (some "N0") =
    "-9,223,372,036,854,775,808" := by decide +kernel

example : (Scalar.integer ⟨.i64, IntKind.i64.least, by decide⟩).formatted (some "x") =
    "8000000000000000" := by decide +kernel

end StructuredLog
