import Mathlib
import StructuredLog.Theme.Dotted

/-!
What the parts of a dotted style string denote: a foreground or background colour, the brightness of
one, or an effect such as bold. Reading a part gives just what it denotes.
-/

namespace StructuredLog.Dotted

/-! ### The grammar -/

structure HexDigit (c : Char) (n : Nat) : Prop where
  lt : n < 16
  glyph : c = Nat.digitChar n ∨ c = (Nat.digitChar n).toUpper

inductive HexPair : List Char → Nat → Prop
  | digits {high low m n} : HexDigit high m → HexDigit low n → HexPair [high, low] (16 * m + n)
  | plus {low n} : HexDigit low n → HexPair ['+', low] n

/-- A decimal number below 256, also with a plus sign and with zeros before it. -/
def ByteNumeral (cs : List Char) (n : Nat) : Prop :=
  ∃ ds, (cs = ds ∨ cs = '+' :: ds) ∧
    (ds ≠ [] ∧ (∀ d ∈ ds, d.isDigit) ∧ Nat.ofDigitChars 10 ds 0 = n) ∧ n < 256

inductive ColourName : List Char → Colour → Prop
  | named {n} (bound : n < colourNames.length) : ColourName colourNames[n].toList (.named n)
  | indexed {cs n} : ByteNumeral cs n → ColourName cs (.indexed n)
  | rgb {r₁ r₀ g₁ g₀ b₁ b₀ r g b} :
      HexPair [r₁, r₀] r → HexPair [g₁, g₀] g → HexPair [b₁, b₀] b →
      ColourName ['#', r₁, r₀, g₁, g₀, b₁, b₀] (.rgb r g b)

inductive Denotes : List Char → Part → Prop
  | foreground {cs c} : ColourName cs c → Denotes cs (.foreground c)
  | background {cs c} : ColourName cs c → Denotes ("on_".toList ++ cs) (.background c)
  | brightForeground : Denotes "bright".toList .brightForeground
  | brightBackground : Denotes "on_bright".toList .brightBackground
  | effect {name code} : (name, code) ∈ attributeCodes → Denotes name.toList (.attribute code)

/-! ### Numbers -/

theorem hexDigit?_eq_some_iff {c : Char} {n : Nat} :
    Text.hexDigit? c = some n ↔ HexDigit c n := by
  constructor
  · intro read
    have ascii : c.toNat < 128 := by
      unfold Text.hexDigit? at read
      split at read
      · next digit =>
        have last : c.toNat ≤ 57 := of_decide_eq_true (Bool.and_eq_true_iff.mp digit).2
        omega
      split at read
      · next small =>
        have last : c.toNat ≤ 102 := small.2
        omega
      split at read
      · next capital =>
        have last : c.toNat ≤ 70 := capital.2
        omega
      · contradiction
    have all : ∀ k ∈ List.range 128, (Text.hexDigit? (Char.ofNat k)).all fun n =>
        n < 16 ∧ (Char.ofNat k = Nat.digitChar n ∨ Char.ofNat k = (Nat.digitChar n).toUpper) := by
      decide +kernel
    have digit := all c.toNat (List.mem_range.mpr ascii)
    rw [Char.ofNat_toNat, read, Option.all_some, decide_eq_true_eq] at digit
    exact ⟨digit.1, digit.2⟩
  · rintro ⟨lt, rfl | rfl⟩
    · have all : ∀ n ∈ List.range 16, Text.hexDigit? (Nat.digitChar n) = some n := by decide
      exact all n (List.mem_range.mpr lt)
    · have all : ∀ n ∈ List.range 16, Text.hexDigit? (Nat.digitChar n).toUpper = some n := by
        decide
      exact all n (List.mem_range.mpr lt)

theorem hexPair?_eq_some_iff {high low : Char} {n : Nat} :
    hexPair? high low = some n ↔ HexPair [high, low] n := by
  constructor
  · intro read
    simp only [hexPair?, Option.bind_eq_bind, Option.bind_eq_some_iff] at read
    obtain ⟨l, isLow, read⟩ := read
    rw [hexDigit?_eq_some_iff] at isLow
    split at read
    · next plus =>
      subst plus
      cases read
      exact .plus isLow
    · cases isHigh : Text.hexDigit? high with
      | none =>
        rw [isHigh] at read
        contradiction
      | some m =>
        rw [isHigh] at read
        cases read
        exact .digits (hexDigit?_eq_some_iff.mp isHigh) isLow
  · intro pair
    cases pair with
    | digits isHigh isLow =>
      rw [← hexDigit?_eq_some_iff] at isHigh isLow
      have noPlus : high ≠ '+' := by
        rintro rfl
        exact absurd isHigh nofun
      simp [hexPair?, isHigh, isLow, noPlus]
    | plus isLow => simp [hexPair?, hexDigit?_eq_some_iff.mpr isLow]

theorem byte?_of_digits {ds : List Char} (nonempty : ds ≠ []) (digits : ∀ d ∈ ds, d.isDigit) :
    byte? ds = (Text.nat? ds).filter (· < 256) := by
  obtain ⟨d, rest, rfl⟩ := List.exists_cons_of_ne_nil nonempty
  have noPlus : d ≠ '+' := by
    rintro rfl
    exact absurd (digits '+' List.mem_cons_self) (by decide)
  unfold byte?
  split
  · next plus => exact absurd (List.cons.inj plus).1 noPlus
  · rfl

theorem byte?_eq_some_iff {cs : List Char} {n : Nat} :
    byte? cs = some n ↔ ByteNumeral cs n := by
  have unsigned {ds : List Char} : (Text.nat? ds).filter (· < 256) = some n ↔
      (ds ≠ [] ∧ (∀ d ∈ ds, d.isDigit) ∧ Nat.ofDigitChars 10 ds 0 = n) ∧ n < 256 := by
    rw [Option.filter_eq_some_iff, Text.nat?_eq_some_iff, decide_eq_true_eq]
  constructor
  · intro read
    unfold byte? at read
    split at read
    · next ds => exact ⟨ds, .inr rfl, unsigned.mp read⟩
    · exact ⟨cs, .inl rfl, unsigned.mp read⟩
  · rintro ⟨ds, rfl | rfl, number⟩
    · rw [byte?_of_digits number.1.1 number.1.2.1, unsigned.mpr number]
    · exact unsigned.mpr number

theorem rgb?_eq_some_iff {code : List Char} {c : Colour} :
    rgb? code = some c ↔ ∃ r₁ r₀ g₁ g₀ b₁ b₀ r g b, code = [r₁, r₀, g₁, g₀, b₁, b₀] ∧
      HexPair [r₁, r₀] r ∧ HexPair [g₁, g₀] g ∧ HexPair [b₁, b₀] b ∧ c = .rgb r g b := by
  simp only [← hexPair?_eq_some_iff]
  unfold rgb?
  split
  · simp only [Option.bind_eq_bind, Option.bind_eq_some_iff]
    constructor
    · rintro ⟨r, isR, g, isG, b, isB, rgb⟩
      cases rgb
      exact ⟨_, _, _, _, _, _, r, g, b, rfl, isR, isG, isB, rfl⟩
    · rintro ⟨_, _, _, _, _, _, r, g, b, same, isR, isG, isB, rfl⟩
      cases same
      exact ⟨r, isR, g, isG, b, isB, rfl⟩
  · next other =>
    refine iff_of_false nofun ?_
    rintro ⟨_, _, _, _, _, _, _, _, _, rfl, -⟩
    exact other _ _ _ _ _ _ rfl

/-! ### Colours -/

/-- Names of colours are in small letters, which tells them from numbers and codes. -/
theorem idxOf?_colourNames_of_mem {cs : List Char} {c : Char} (mem : c ∈ cs)
    (other : c.isLower = false) : colourNames.idxOf? (String.ofList cs) = none := by
  have small : ∀ name ∈ colourNames, ∀ c ∈ name.toList, c.isLower = true := by
    simp [colourNames]
  refine List.idxOf?_eq_none_iff.mpr fun isName => ?_
  have isLower := small _ isName c (by rwa [String.toList_ofList])
  exact Bool.false_ne_true (other.symm.trans isLower)

theorem colour?_cons {c : Char} (other : c.isLower = false) (noHash : c ≠ '#') (cs : List Char) :
    colour? (c :: cs) = (byte? (c :: cs)).map .indexed := by
  unfold colour?
  rw [idxOf?_colourNames_of_mem List.mem_cons_self other]
  split
  · contradiction
  · next hash => exact absurd (List.cons.inj hash).1 noHash
  · rfl

theorem colour?_of_byteNumeral {cs : List Char} {n : Nat} (isByte : ByteNumeral cs n) :
    colour? cs = some (.indexed n) := by
  have read := byte?_eq_some_iff.mpr isByte
  obtain ⟨ds, rfl | rfl, ⟨nonempty, digits, -⟩, -⟩ := isByte
  · obtain ⟨d, ds, rfl⟩ := List.exists_cons_of_ne_nil nonempty
    have isDigit := digits d List.mem_cons_self
    have noLetter : d.isLower = false := by
      have last : d.toNat ≤ 57 := of_decide_eq_true (Bool.and_eq_true_iff.mp isDigit).2
      refine Bool.and_eq_false_iff.mpr (.inl (decide_eq_false fun first => ?_))
      have first : 97 ≤ d.toNat := first
      omega
    have noHash : d ≠ '#' := by
      rintro rfl
      exact absurd isDigit (by decide)
    rw [colour?_cons noLetter noHash, read, Option.map_some]
  · rw [colour?_cons (by decide) (by decide), read, Option.map_some]

theorem colour?_eq_some_iff {cs : List Char} {c : Colour} :
    colour? cs = some c ↔ ColourName cs c := by
  constructor
  · intro read
    unfold colour? at read
    split at read
    · next found =>
      obtain ⟨bound, same, -⟩ := List.idxOf?_eq_some_iff.mp found
      have named := ColourName.named bound
      rw [same, String.toList_ofList] at named
      cases read
      exact named
    · obtain ⟨_, _, _, _, _, _, r, g, b, rfl, isR, isG, isB, rfl⟩ := rgb?_eq_some_iff.mp read
      exact .rgb isR isG isB
    · obtain ⟨n, isByte, rfl⟩ := Option.map_eq_some_iff.mp read
      exact .indexed (byte?_eq_some_iff.mp isByte)
  · intro name
    cases name with
    | named bound =>
      have nodup : colourNames.Nodup := by simp [colourNames]
      have found := List.idxOf?_eq_some_iff.mpr
        ⟨bound, rfl, fun j lt same => absurd (nodup.getElem_inj_iff.mp same) (Nat.ne_of_lt lt)⟩
      unfold colour?
      rw [String.ofList_toList, found]
    | indexed isByte => exact colour?_of_byteNumeral isByte
    | rgb isR isG isB =>
      have read := rgb?_eq_some_iff.mpr ⟨_, _, _, _, _, _, _, _, _, rfl, isR, isG, isB, rfl⟩
      unfold colour?
      rw [idxOf?_colourNames_of_mem (c := '#') List.mem_cons_self (by decide)]
      exact read

/-- No colour is written like a background. -/
theorem colour?_on (cs : List Char) : colour? ("on_".toList ++ cs) = none := by
  have start : "on_".toList ++ cs = 'o' :: 'n' :: '_' :: cs := rfl
  rw [start]
  unfold colour?
  rw [idxOf?_colourNames_of_mem (c := '_') (by simp) (by decide)]
  rfl

/-! ### Parts -/

theorem mem_of_lookup {cs : List Char} {code : Nat}
    (found : attributeCodes.lookup (String.ofList cs) = some code) :
    (String.ofList cs, code) ∈ attributeCodes := by
  obtain ⟨before, after, split, -⟩ := List.lookup_eq_some_iff.mp found
  rw [split]
  exact List.mem_append_right before List.mem_cons_self

theorem ofName?_of_mem : ∀ entry ∈ attributeCodes,
    Part.ofName? entry.1.toList = some (.attribute entry.2) := by
  decide +kernel

theorem ofName?_of_colour? {cs : List Char} {c : Colour} (isColour : colour? cs = some c) :
    Part.ofName? cs = some (.foreground c) := by
  have noEffect : attributeCodes.lookup (String.ofList cs) = none := by
    have all : ∀ entry ∈ attributeCodes, colour? entry.1.toList = none := by decide +kernel
    refine Option.eq_none_iff_forall_ne_some.mpr fun code found => ?_
    have absent := all _ (mem_of_lookup found)
    rw [String.toList_ofList, isColour] at absent
    contradiction
  unfold Part.ofName?
  rw [noEffect]
  split
  · contradiction
  · exact absurd isColour nofun
  · exact absurd isColour nofun
  · next rest _ _ => exact absurd (isColour.symm.trans (colour?_on rest)) nofun
  · rw [isColour, Option.map_some]

theorem ofName?_on_of_colour? {cs : List Char} {c : Colour} (isColour : colour? cs = some c) :
    Part.ofName? ("on_".toList ++ cs) = some (.background c) := by
  have start : "on_".toList ++ cs = 'o' :: 'n' :: '_' :: cs := rfl
  have noEffect : attributeCodes.lookup (String.ofList ('o' :: 'n' :: '_' :: cs)) = none := by
    have all : ∀ entry ∈ attributeCodes, entry.1.toList.head? ≠ some 'o' := by decide +kernel
    refine Option.eq_none_iff_forall_ne_some.mpr fun code found => ?_
    exact all _ (mem_of_lookup found) (by rw [String.toList_ofList, List.head?_cons])
  rw [start]
  unfold Part.ofName?
  rw [noEffect]
  split
  · contradiction
  · next same => exact absurd same nofun
  · next same =>
    cases same
    exact absurd isColour nofun
  · next same =>
    cases same
    rw [isColour, Option.map_some]
  · next other => exact absurd rfl (other cs)

theorem ofName?_eq_some_iff {cs : List Char} {p : Part} :
    Part.ofName? cs = some p ↔ Denotes cs p := by
  constructor
  · intro read
    unfold Part.ofName? at read
    split at read
    · next found =>
      have effect := Denotes.effect (mem_of_lookup found)
      rw [String.toList_ofList] at effect
      cases read
      exact effect
    · cases read
      exact .brightForeground
    · cases read
      exact .brightBackground
    · obtain ⟨c, isColour, rfl⟩ := Option.map_eq_some_iff.mp read
      exact .background (colour?_eq_some_iff.mp isColour)
    · obtain ⟨c, isColour, rfl⟩ := Option.map_eq_some_iff.mp read
      exact .foreground (colour?_eq_some_iff.mp isColour)
  · intro denotes
    cases denotes with
    | foreground name => exact ofName?_of_colour? (colour?_eq_some_iff.mpr name)
    | background name => exact ofName?_on_of_colour? (colour?_eq_some_iff.mpr name)
    | brightForeground => rfl
    | brightBackground => rfl
    | effect mem => exact ofName?_of_mem (_, _) mem

end StructuredLog.Dotted
