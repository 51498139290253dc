import StructuredLog.Proofs.Json.Value
import StructuredLog.Proofs.Message.Styling
import StructuredLog.Proofs.Output.Themed

/-!
The two forms in which values are written as JSON: compact, and with a space after each comma and
colon for a themed line. What is inside a string is the same in both, so that they differ by these
spaces alone, and both are texts of the same document.
-/

namespace StructuredLog

open Piece

namespace Json

/-- A JSON text with one space after each comma and each colon that stands outside its strings. The
flag tells whether the text starts inside a string. -/
def spaced : Bool → List Char → List Char
  | _, [] => []
  | true, '\\' :: c :: cs => '\\' :: c :: spaced true cs
  | inString, '"' :: cs => '"' :: spaced (!inString) cs
  | false, ',' :: cs => ',' :: ' ' :: spaced false cs
  | false, ':' :: cs => ':' :: ' ' :: spaced false cs
  | inString, c :: cs => c :: spaced inString cs

/-! ### Inside a string -/

theorem spaced_inside_cons {c : Char} (noQuote : c ≠ '"') (noSlash : c ≠ '\\') (cs : List Char) :
    spaced true (c :: cs) = c :: spaced true cs := by
  rw [spaced.eq_def]
  split <;> simp_all

theorem spaced_escape (c : Char) (rest : List Char) :
    spaced true (escape c ++ rest) = escape c ++ spaced true rest := by
  unfold escape
  split
  case h_7 noQuote noSlash _ _ _ _ =>
    split
    · next control =>
      have digit {n : Nat} (small : n < 16) :
          Text.hexDigit n ≠ '"' ∧ Text.hexDigit n ≠ '\\' := by
        have all : ∀ n ∈ List.range 16, Text.hexDigit n ≠ '"' ∧ Text.hexDigit n ≠ '\\' := by decide
        exact all n (List.mem_range.mpr small)
      have high := digit (by omega : c.toNat / 16 < 16)
      have low := digit (by omega : c.toNat % 16 < 16)
      simp only [List.cons_append, List.nil_append, spaced]
      rw [spaced_inside_cons (by decide) (by decide), spaced_inside_cons (by decide) (by decide),
        spaced_inside_cons high.1 high.2, spaced_inside_cons low.1 low.2]
    · exact spaced_inside_cons noQuote noSlash rest
  all_goals simp [spaced]

theorem spaced_escaped (s rest : List Char) :
    spaced true (s.flatMap escape ++ '"' :: rest) =
      s.flatMap escape ++ '"' :: spaced false rest := by
  induction s with
  | nil => rfl
  | cons c s ih => rw [List.flatMap_cons, List.append_assoc, spaced_escape, ih, List.append_assoc]

/-! ### Texts put together -/

/-- The text `t` is `s` with its spaces, whatever comes after it. -/
def Spaces (s t : String) : Prop :=
  ∀ rest, spaced false (s.toList ++ rest) = t.toList ++ spaced false rest

theorem Spaces.eq {s t : String} (spaces : Spaces s t) :
    String.ofList (spaced false s.toList) = t := by
  have whole := spaces []
  rw [List.append_nil, spaced, List.append_nil] at whole
  rw [whole, String.ofList_toList]

theorem Spaces.append {s s' t t' : String} (left : Spaces s t) (right : Spaces s' t') :
    Spaces (s ++ s') (t ++ t') := by
  intro rest
  rw [String.toList_append, String.toList_append, List.append_assoc, List.append_assoc, left,
    right]

theorem spaces_quoted (s : String) : Spaces (quoted s) (quoted s) := by
  intro rest
  simp only [toList_quoted, List.cons_append, List.append_assoc, List.nil_append]
  exact congrArg ('"' :: ·) (spaced_escaped s.toList rest)

/-- Neither a quote nor followed by a space. -/
def Bare (c : Char) : Prop := c ≠ '"' ∧ c ≠ ',' ∧ c ≠ ':'

instance (c : Char) : Decidable (Bare c) := inferInstanceAs (Decidable (_ ∧ _ ∧ _))

theorem spaced_bare {c : Char} (bare : Bare c) (cs : List Char) :
    spaced false (c :: cs) = c :: spaced false cs := by
  obtain ⟨noQuote, noComma, noColon⟩ := bare
  rw [spaced.eq_def]
  split <;> simp_all

theorem spaces_bare {s : String} (bare : ∀ c ∈ s.toList, Bare c) : Spaces s s := by
  intro rest
  generalize s.toList = cs at bare ⊢
  induction cs with
  | nil => rfl
  | cons c cs ih =>
    rw [List.forall_mem_cons] at bare
    rw [List.cons_append, spaced_bare bare.1, ih bare.2, List.cons_append]

theorem spaces_comma : Spaces "," ", " := fun _ => rfl

theorem spaces_colon : Spaces ":" ": " := fun _ => rfl

theorem spaces_intercalate {ss ts : List String} (spaces : List.Forall₂ Spaces ss ts) :
    Spaces (",".intercalate ss) (", ".intercalate ts) := by
  induction spaces with
  | nil => exact fun _ => rfl
  | cons head tail ih =>
    cases tail with
    | nil =>
      rw [String.intercalate_singleton, String.intercalate_singleton]
      exact head
    | cons head' tail' =>
      rw [String.intercalate_cons_cons, String.intercalate_cons_cons]
      exact (head.append spaces_comma).append ih

/-! ### Scalars -/

theorem NumberChar.bare {c : Char} (number : NumberChar c) : Bare c := by
  rcases number with digit | rfl | rfl
  · refine ⟨?_, ?_, ?_⟩ <;>
    · rintro rfl
      contradiction
  · decide
  · decide

theorem ScalarText.spaces {text : String} {d : Document} (scalar : ScalarText text d) :
    Spaces text text := by
  cases scalar with
  | null => exact fun _ => rfl
  | bool b => cases b <;> exact fun _ => rfl
  | number chars => exact spaces_bare fun c mem => (chars c mem).bare
  | string s => exact spaces_quoted s

/-! ### Pieces -/

theorem visibleAll_jsonName (style : Style) (name : String) (item : List Piece) :
    visibleAll (jsonName style name item) = quoted name ++ ": " ++ visibleAll item := by
  simp [jsonName, mark, visible, visibleAll, String.append_assoc]

/-! ### Values -/

/-- The two texts of a document, without spaces and with them. -/
structure Prints (plain themed : String) (d : Document) : Prop where
  spaces : Spaces plain themed
  reads : Reads themed.toList d

/-- The two texts of each document of a list; `Text` tells what text a document has. -/
structure PrintsEach (Text : List Char → γ → Prop) (plain themed : List String) (ds : List γ) :
    Prop where
  spaces : List.Forall₂ Spaces plain themed
  reads : List.Forall₂ Text (themed.map String.toList) ds

section Lists

variable {Text : List Char → γ → Prop} {plain themed : List String} {ds : List γ}

theorem PrintsEach.nil : PrintsEach Text [] [] [] := ⟨.nil, .nil⟩

theorem PrintsEach.cons {s t : String} {d : γ} (spaces : Spaces s t) (text : Text t.toList d)
    (tail : PrintsEach Text plain themed ds) :
    PrintsEach Text (s :: plain) (t :: themed) (d :: ds) :=
  ⟨.cons spaces tail.spaces, .cons text tail.reads⟩

theorem PrintsEach.append {plain' themed' : List String} {ds' : List γ}
    (left : PrintsEach Text plain themed ds) (right : PrintsEach Text plain' themed' ds') :
    PrintsEach Text (plain ++ plain') (themed ++ themed') (ds ++ ds') where
  spaces := List.rel_append left.spaces right.spaces
  reads := by
    rw [List.map_append]
    exact List.rel_append left.reads right.reads

end Lists

theorem isGap_space : IsGap [' '] := List.forall_mem_singleton.mpr rfl

theorem Prints.string (s : String) : Prints (quoted s) (quoted s) (.string s) :=
  ⟨spaces_quoted s, Reads.string s⟩

theorem Prints.array {plain themed : List String} {ds : List Document}
    (each : PrintsEach Reads plain themed ds) :
    Prints ("[" ++ ",".intercalate plain ++ "]") ("[" ++ ", ".intercalate themed ++ "]")
      (.array ds) where
  spaces := by
    have opening : Spaces "[" "[" := fun _ => rfl
    have closing : Spaces "]" "]" := fun _ => rfl
    exact (opening.append (spaces_intercalate each.spaces)).append closing
  reads := by
    have read := Reads.array isGap_space each.reads
    rw [String.toList_append, String.toList_append, String.toList_intercalate]
    exact read

theorem Prints.object {plain themed : List String} {ds : List (String × Document)}
    (each : PrintsEach (ReadsMember [' ']) plain themed ds) :
    Prints ("\x7b" ++ ",".intercalate plain ++ "\x7d") ("\x7b" ++ ", ".intercalate themed ++ "\x7d")
      (.object ds) where
  spaces := by
    have opening : Spaces "\x7b" "\x7b" := fun _ => rfl
    have closing : Spaces "\x7d" "\x7d" := fun _ => rfl
    exact (opening.append (spaces_intercalate each.spaces)).append closing
  reads := by
    have read := Reads.object isGap_space each.reads
    rw [String.toList_append, String.toList_append, String.toList_intercalate]
    exact read

theorem PrintsEach.member {name plain themed : String} {d : Document}
    (prints : Prints plain themed d) {plains themeds : List String}
    {ds : List (String × Document)} (tail : PrintsEach (ReadsMember [' ']) plains themeds ds) :
    PrintsEach (ReadsMember [' ']) ((quoted name ++ ":" ++ plain) :: plains)
      ((quoted name ++ ": " ++ themed) :: themeds) ((name, d) :: ds) := by
  refine .cons ?_ ?_ tail
  · exact ((spaces_quoted name).append spaces_colon).append prints.spaces
  · refine ⟨themed.toList, ?_, prints.reads⟩
    simp only [String.toList_append, List.append_assoc]
    rfl

mutual

theorem prints_json : (v : Value) →
    Prints (v.json messageTagName) (visibleAll v.jsonPieces) (v.document messageTagName)
  | .scalar s => by
    have alone : visibleAll (Value.scalar s).jsonPieces = s.json := by
      simp [Value.jsonPieces, visibleAll, visible]
    rw [alone]
    exact ⟨(scalarText s).spaces, (scalarText s).reads⟩
  | .sequence items => by
    rw [Value.jsonPieces, visibleAll_between]
    exact .array (prints_itemJsons items)
  | .record tag members => by
    -- The tag is one more member after the record's own, as in the compact text.
    have own := prints_memberJsons members
    rw [Value.jsonPieces, visibleAll_between, List.map_append]
    cases tag with
    | none => exact .object (own.append .nil)
    | some t =>
      have tagged : PrintsEach (ReadsMember [' ']) [quoted messageTagName ++ ":" ++ quoted t]
          [quoted messageTagName ++ ": " ++ quoted t] [(messageTagName, .string t)] :=
        .member (Prints.string t) .nil
      have pieces : visibleAll (jsonName .name messageTagName [.span .string (quoted t)]) =
          quoted messageTagName ++ ": " ++ quoted t := by
        rw [visibleAll_jsonName, visibleAll, visibleAll, visible, String.append_empty]
      rw [Option.map_some, Option.toList_some, List.map_singleton, pieces]
      exact .object (own.append tagged)
  | .dictionary entries => by
    rw [Value.jsonPieces, visibleAll_between]
    exact .object (prints_entryJsons entries)

theorem prints_itemJsons : (vs : List Value) →
    PrintsEach Reads (itemJsons messageTagName vs) ((itemJsonPieces vs).map visibleAll)
      (itemDocuments messageTagName vs)
  | [] => .nil
  | v :: vs => .cons (prints_json v).spaces (prints_json v).reads (prints_itemJsons vs)

theorem prints_memberJsons : (ms : List (String × Value)) →
    PrintsEach (ReadsMember [' ']) (memberJsons messageTagName ms)
      ((memberJsonPieces ms).map visibleAll) (memberDocuments messageTagName ms)
  | [] => .nil
  | (_, v) :: ms => by
    rw [memberJsonPieces, List.map_cons, visibleAll_jsonName]
    exact .member (prints_json v) (prints_memberJsons ms)

theorem prints_entryJsons : (es : List (Scalar × Value)) →
    PrintsEach (ReadsMember [' ']) (entryJsons messageTagName es)
      ((entryJsonPieces es).map visibleAll) (entryDocuments messageTagName es)
  | [] => .nil
  | (_, v) :: es => by
    rw [entryJsonPieces, List.map_cons, visibleAll_jsonName]
    exact .member (prints_json v) (prints_entryJsons es)

end

end Json

namespace Value

/-- Without a theme the JSON form of a value is written as its compact text with one space after
each comma and colon outside strings, and both are texts of the same document. -/
theorem themed_json_spaced (provider : Provider) (format : Option String) (v : Value)
    (before : String) :
    let compact := v.json Json.messageTagName
    let themed := String.ofList (Json.spaced false compact.toList)
    v.jsonWriter Json.messageTagName ⟨none, before⟩ = (⟨none, before ++ compact⟩, true) ∧
    v.themedWriter .json Theme.plain provider format false ⟨none, before⟩ =
      (⟨none, before ++ themed⟩, some 0) ∧
    Json.Document.parse? compact = some (v.document Json.messageTagName) ∧
    Json.Document.parse? themed = some (v.document Json.messageTagName) := by
  intro compact themed
  have prints := Json.prints_json v
  have text : themed = visibleAll v.jsonPieces := prints.spaces.eq
  have pieces : v.pieces .json provider format false = v.jsonPieces := by
    cases v <;> rfl
  refine ⟨?_, ?_, ?_, ?_⟩
  · rw [delivers_json, Sink.write_none]
  · rw [(v.writes_pieces .json Theme.plain provider format false).write_none, pieces,
      styledAll_plain, invisibleAll_plain, text]
  · exact Json.parse?_of_reads (Json.reads_json _ v)
  · rw [text]
    exact Json.parse?_of_reads prints.reads

example :
    let v : Value := .record (some "A:\"B,")
      [("a,b", .sequence [.scalar (.string "c:\\d,"), .scalar .null, .record none []]),
        ("", .dictionary [(.char ':', .scalar (.bool true)), (.null, .sequence [])])]
    v.themedWriter .json Theme.plain .none none false ⟨none, ""⟩ =
      (⟨none, "\x7b\"a,b\": [\"c:\\\\d,\", null, \x7b\x7d], " ++
        "\"\": \x7b\":\": true, \"null\": []\x7d, \"$type\": \"A:\\\"B,\"\x7d"⟩, some 0) := by
  decide +kernel

end Value

end StructuredLog
