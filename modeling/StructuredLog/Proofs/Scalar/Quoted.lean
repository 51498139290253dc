import StructuredLog.Proofs.Output.Unthemed

/-!
Quoted strings in plain text, read back. A backslash stands for itself unless a quote follows, and
in a quoted text a quote follows just the backslash that was written for it. So the string is
restored from left to right, whatever backslashes and quotes it holds.
-/

namespace StructuredLog

/-- Every quote with a backslash before it becomes a quote again, from left to right. -/
def restoreQuotes : List Char → List Char
  | '\\' :: '"' :: cs => '"' :: restoreQuotes cs
  | c :: cs => c :: restoreQuotes cs
  | [] => []

theorem restoreQuotes_cons (c : Char) {cs : List Char} (noQuote : cs.head? ≠ some '"') :
    restoreQuotes (c :: cs) = c :: restoreQuotes cs :=
  restoreQuotes.eq_2 c cs fun _ _ eq => noQuote (by rw [eq, List.head?_cons])

/-- A quote never comes first, as its backslash stands before it. -/
theorem head?_escapeQuotes_ne (cs : List Char) : (escapeQuotes cs).head? ≠ some '"' := by
  cases cs with
  | nil => exact nofun
  | cons c cs =>
    rw [escapeQuotes_cons]
    split
    · simp
    · next other => simpa using other

theorem restoreQuotes_escapeQuotes (cs : List Char) : restoreQuotes (escapeQuotes cs) = cs := by
  induction cs with
  | nil => rfl
  | cons c cs ih =>
    rw [escapeQuotes_cons]
    split
    · next quote => rw [quote, List.cons_append, List.singleton_append, restoreQuotes, ih]
    · rw [List.singleton_append, restoreQuotes_cons c (head?_escapeQuotes_ne cs), ih]

theorem escapeQuotes_injective : Function.Injective escapeQuotes :=
  Function.LeftInverse.injective restoreQuotes_escapeQuotes

theorem toList_quotedPlain (s : String) :
    (quotedPlain s).toList = '"' :: (escapeQuotes s.toList ++ ['"']) :=
  String.toList_ofList

theorem quotedPlain_inj {s s' : String} : quotedPlain s = quotedPlain s' ↔ s = s' := by
  rw [← String.toList_inj, toList_quotedPlain, toList_quotedPlain, List.cons_inj_right,
    List.append_left_inj, escapeQuotes_injective.eq_iff, String.toList_inj]

namespace Scalar

theorem render_string (s : String) {format : Option String} (plain : format ≠ some "l")
    (provider : Provider) : (string s).render format provider = quotedPlain s :=
  if_neg plain

/-- A string that is not written literally reaches every sink between two quotes, from where it is
read back. Strings of one text are equal. -/
theorem render_string_reads (s : String) {format : Option String} (plain : format ≠ some "l")
    (provider : Provider) :
    let text := (string s).render format provider
    (∃ inside, text.toList = '"' :: (inside ++ ['"']) ∧ restoreQuotes inside = s.toList) ∧
    (∀ k, (string s).writer format provider k = k.write text) ∧
    ∀ (s' : String) (format' : Option String) (provider' : Provider), format' ≠ some "l" →
      ((string s').render format' provider' = text ↔ s' = s) := by
  intro text
  have quoted : text = quotedPlain s := render_string s plain provider
  refine ⟨⟨escapeQuotes s.toList, ?_, restoreQuotes_escapeQuotes s.toList⟩,
    delivers_scalar (string s) format provider, fun s' format' provider' plain' => ?_⟩
  · rw [quoted, toList_quotedPlain]
  · rw [quoted, render_string s' plain' provider', quotedPlain_inj]

/-- Backslashes before a quote, before another backslash and at the end. -/
theorem render_backslashes_reads :
    let s := "a\\\"b\\\\\"\\"
    let text := (string s).render (some "u") .none
    some "u" ≠ some "l" ∧ text = "\"a\\\\\"b\\\\\\\"\\\"" ∧
    (∃ inside, text.toList = '"' :: (inside ++ ['"']) ∧ restoreQuotes inside = s.toList) ∧
    (string "a\"b\\\\\"\\").render none .none ≠ text := by
  have plain : some "u" ≠ some "l" := by decide
  obtain ⟨reads, -, same⟩ := render_string_reads "a\\\"b\\\\\"\\" plain .none
  exact ⟨plain, by decide +kernel, reads, mt (same _ none .none nofun).mp (by decide)⟩

end Scalar

end StructuredLog
