import StructuredLog.Capture.Bytes
import StructuredLog.Proofs.Scalar.Integer

/-!
The text of captured bytes, read back. A full text gives all the bytes, by two capital digits each,
and an abbreviated one the first of them and how many there are. Which of the two a text is shows
in it, since no digit is a dot.
-/

namespace StructuredLog.Capture

/-! ### Reading -/

def readByte? (high low : Char) : Option UInt8 := do
  let high ← Alphabet.upperHex.glyphs.idxOf? high
  let low ← Alphabet.upperHex.glyphs.idxOf? low
  return .ofNat (16 * high + low)

/-- Two digits a byte, and no digit left over. -/
def readHex? : List Char → Option (List UInt8)
  | [] => some []
  | [_] => none
  | high :: low :: digits => do return (← readByte? high low) :: (← readHex? digits)

theorem readByte?_hexDigit {high low : Nat} (isHigh : high < 16) (isLow : low < 16) :
    readByte? (Text.hexDigit high) (Text.hexDigit low) = some (.ofNat (16 * high + low)) := by
  have digit : ∀ n ∈ List.range 16,
      Alphabet.upperHex.glyphs.idxOf? (Text.hexDigit n) = some n := by decide
  rw [readByte?, digit high (List.mem_range.mpr isHigh), digit low (List.mem_range.mpr isLow)]
  rfl

theorem readHex?_hexBytes (data : List UInt8) :
    readHex? (data.flatMap Text.hexByte) = some data := by
  induction data with
  | nil => rfl
  | cons b data ih =>
    have bound : b.toNat < 256 := b.toNat_lt
    have halves : UInt8.ofNat (16 * (b.toNat / 16) + b.toNat % 16) = b := by
      rw [Nat.div_add_mod, UInt8.ofNat_toNat]
    rw [List.flatMap_cons, Text.hexByte, List.cons_append, List.cons_append, List.nil_append,
      readHex?, ih, readByte?_hexDigit (by omega) (by omega), halves]
    rfl

theorem mem_glyphs_of_readByte? {high low : Char} {b : UInt8}
    (read : readByte? high low = some b) :
    high ∈ Alphabet.upperHex.glyphs ∧ low ∈ Alphabet.upperHex.glyphs := by
  simp only [readByte?, Option.bind_eq_bind, Option.bind_eq_some_iff] at read
  obtain ⟨i, isHigh, j, isLow, -⟩ := read
  exact ⟨List.isSome_idxOf?.mp (Option.isSome_iff_exists.mpr ⟨i, isHigh⟩),
    List.isSome_idxOf?.mp (Option.isSome_iff_exists.mpr ⟨j, isLow⟩)⟩

theorem mem_glyphs_of_readHex? {digits : List Char} {data : List UInt8}
    (read : readHex? digits = some data) : ∀ d ∈ digits, d ∈ Alphabet.upperHex.glyphs := by
  fun_induction readHex? digits generalizing data with
  | case1 => exact List.forall_mem_nil _
  | case2 => contradiction
  | case3 high low digits ih =>
    simp only [Option.bind_eq_bind, Option.bind_eq_some_iff] at read
    obtain ⟨b, readByte, rest, readRest, -⟩ := read
    have both := mem_glyphs_of_readByte? readByte
    exact List.forall_mem_cons.mpr ⟨both.1, List.forall_mem_cons.mpr ⟨both.2, ih readRest⟩⟩

theorem dot_notMem_of_readHex? {digits : List Char} {data : List UInt8}
    (read : readHex? digits = some data) : '.' ∉ digits :=
  fun mem => absurd (mem_glyphs_of_readHex? read '.' mem) (by decide)

/-! ### Texts of bytes -/

/-- The texts that stand for bytes: all of their digits for up to 1024 of them, else the digits of
the first sixteen and the number of all. -/
inductive ShowsBytes (data : List UInt8) : List Char → Prop
  | full {digits} : data.length ≤ 1024 → readHex? digits = some data → ShowsBytes data digits
  | abbreviated {digits count} :
      1024 < data.length → readHex? digits = some (data.take 16) →
      Alphabet.decimal.Numeral data.length count →
      ShowsBytes data (digits ++ ("... (".toList ++ (count ++ " bytes)".toList)))

theorem toList_hexText (data : List UInt8) : (hexText data).toList = data.flatMap Text.hexByte :=
  String.toList_ofList

theorem showsBytes_bytesText (data : List UInt8) : ShowsBytes data (bytesText data).toList := by
  unfold bytesText
  split
  · next short =>
    rw [toList_hexText]
    exact .full short (readHex?_hexBytes data)
  · next long =>
    simp only [String.toList_append, toList_hexText, List.append_assoc]
    exact .abbreviated (Nat.lt_of_not_le long) (readHex?_hexBytes _)
      (Integer.numeral_magnitude data.length)

/-- What an abbreviation keeps of the bytes. -/
def Abbreviates (data data' : List UInt8) : Prop :=
  1024 < data.length ∧ 1024 < data'.length ∧ data.length = data'.length ∧
    data.take 16 = data'.take 16

theorem digits_eq_of_abbreviated {digits digits' rest rest' : List Char}
    {data data' : List UInt8} (read : readHex? digits = some data)
    (read' : readHex? digits' = some data')
    (same : digits ++ ("... (".toList ++ rest) = digits' ++ ("... (".toList ++ rest')) :
    digits = digits' ∧ rest = rest' := by
  have upToDot {digits : List Char} {data : List UInt8} (read : readHex? digits = some data)
      (rest : List Char) :
      (digits ++ ("... (".toList ++ rest)).takeWhile (· ≠ '.') = digits :=
    Text.takeWhile_append_stop
      (fun d mem => decide_eq_true (ne_of_mem_of_not_mem mem (dot_notMem_of_readHex? read)))
      (by simp)
  have digits : digits = digits' := by rw [← upToDot read rest, same, upToDot read' rest']
  subst digits
  exact ⟨rfl, List.append_cancel_left (List.append_cancel_left same)⟩

theorem ShowsBytes.unambiguous {data data' : List UInt8} {text text' : List Char}
    (shows : ShowsBytes data text) (shows' : ShowsBytes data' text') (same : text = text') :
    data = data' ∨ Abbreviates data data' := by
  cases shows with
  | full _ read =>
    cases shows' with
    | full _ read' =>
      subst same
      exact .inl (Option.some.inj (read.symm.trans read'))
    | abbreviated => exact absurd (by simp [same]) (dot_notMem_of_readHex? read)
  | abbreviated long read numeral =>
    cases shows' with
    | full _ read' => exact absurd (by simp [← same]) (dot_notMem_of_readHex? read')
    | abbreviated long' read' numeral' =>
      obtain ⟨rfl, rest⟩ := digits_eq_of_abbreviated read read' same
      have start := Option.some.inj (read.symm.trans read')
      have count := List.append_cancel_right rest
      subst count
      exact .inr ⟨long, long', numeral.denoted_eq.symm.trans numeral'.denoted_eq, start⟩

theorem bytesText_of_lt {data : List UInt8} (long : 1024 < data.length) :
    bytesText data = hexText (data.take 16) ++ "... (" ++ toString data.length ++ " bytes)" :=
  if_neg (Nat.not_le.mpr long)

/-- The text of bytes shows them, all or their start and number. Two lists of bytes have one text
only if they are equal or their abbreviations are. -/
theorem bytesText_reads (data : List UInt8) :
    ShowsBytes data (bytesText data).toList ∧
    ∀ data', bytesText data = bytesText data' ↔ data = data' ∨ Abbreviates data data' := by
  refine ⟨showsBytes_bytesText data, fun data' => ⟨fun same => ?_, ?_⟩⟩
  · exact (showsBytes_bytesText data).unambiguous (showsBytes_bytesText data')
      (congrArg String.toList same)
  · rintro (rfl | ⟨long, long', length, start⟩)
    · rfl
    · rw [bytesText_of_lt long, bytesText_of_lt long', length, start]

end StructuredLog.Capture
