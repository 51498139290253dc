import StructuredLog.Json.Value
import StructuredLog.Proofs.Json.Number
import StructuredLog.Proofs.Json.Plain

/-!
The document that the JSON text of a value denotes, and that it is what a reader makes of the text:
nothing is lost, and nothing is added but a record's tag.
-/

namespace StructuredLog

/-! ### Documents -/

def Decimal.Decoded.document : Decimal.Decoded → Json.Document
  | .finite b => .number (b.shortest.number b.negative)
  | .infinite false => .string "Infinity"
  | .infinite true => .string "-Infinity"
  | .nan => .string "NaN"

def Scalar.document : Scalar → Json.Document
  | .null => .null
  | .bool b => .bool b
  | .char c => .string (String.singleton c)
  | .integer n => .number (.integer n.value)
  | .f32 bits => (Decimal.Decoded.ofBits32 bits).document
  | .f64 bits => (Decimal.Decoded.ofBits64 bits).document
  | .string s => .string s
  | .zoned t => .string (Calendar.zonedText t)
  | .clock t => .string (Calendar.localText t)
  | .date d => .string (Calendar.dateText d)
  | .time t => .string (Calendar.timeText t)
  | .duration d => .string d.text
  | .variant name => .string name
  | .other text => .string text

mutual

def Value.document (tagName : String) : Value → Json.Document
  | .scalar s => s.document
  | .sequence items => .array (itemDocuments tagName items)
  | .record tag members =>
    .object (memberDocuments tagName members ++ (tag.map fun t => (tagName, .string t)).toList)
  | .dictionary entries => .object (entryDocuments tagName entries)

def itemDocuments (tagName : String) : List Value → List Json.Document
  | [] => []
  | v :: vs => v.document tagName :: itemDocuments tagName vs

def memberDocuments (tagName : String) : List (String × Value) → List (String × Json.Document)
  | [] => []
  | (name, v) :: ms => (name, v.document tagName) :: memberDocuments tagName ms

def entryDocuments (tagName : String) : List (Scalar × Value) → List (String × Json.Document)
  | [] => []
  | (key, v) :: es => (key.text, v.document tagName) :: entryDocuments tagName es

end

theorem itemDocuments_eq (tagName : String) (vs : List Value) :
    itemDocuments tagName vs = vs.map (Value.document tagName) := by
  induction vs with
  | nil => rfl
  | cons v vs ih => rw [itemDocuments, ih, List.map_cons]

theorem entryDocuments_eq (tagName : String) (es : List (Scalar × Value)) :
    entryDocuments tagName es = es.map fun e => (e.1.text, e.2.document tagName) := by
  induction es with
  | nil => rfl
  | cons e es ih => rw [entryDocuments, ih, List.map_cons]

namespace Json

/-! ### Scalars -/

/-- What the text of a scalar may be, with what it denotes. Strings are quoted; a date or a time is
written between quotes as it is, which comes to the same. -/
inductive ScalarText : String → Document → Prop
  | null : ScalarText "null" .null
  | bool (b : Bool) : ScalarText (if b then "true" else "false") (.bool b)
  | number {text n} : (∀ c ∈ text.toList, NumberChar c) → Reads text.toList (.number n) →
      ScalarText text (.number n)
  | string (s : String) : ScalarText (quoted s) (.string s)

theorem ScalarText.plain {s : String} (plain : Plain s) :
    ScalarText ("\"" ++ s ++ "\"") (.string s) := by
  rw [← quoted_plain plain]
  exact .string s

theorem scalarText_decoded {d : Decimal.Decoded} (moderate : ∀ b, d = .finite b → b.Moderate) :
    ScalarText d.json d.document := by
  cases d with
  | finite b => exact .number (numberChar_binary b) (reads_binary (moderate b rfl))
  | infinite negative => cases negative <;> exact .string _
  | nan => exact .string _

theorem scalarText (s : Scalar) : ScalarText s.json s.document := by
  cases s with
  | null => exact .null
  | bool b => exact .bool b
  | integer n => exact .number (numberChar_integer n) (reads_integer n)
  | f32 bits => exact scalarText_decoded fun _ => Decimal.moderate_ofBits32
  | f64 bits => exact scalarText_decoded fun _ => Decimal.moderate_ofBits64
  | zoned t => exact .plain (Calendar.plain_zonedText t)
  | clock t => exact .plain (Calendar.plain_localText t)
  | date d => exact .plain (Calendar.plain_dateText d)
  | time t => exact .plain (Calendar.plain_timeText t)
  | char c => exact .string _
  | string s => exact .string _
  | duration d => exact .string _
  | variant name => exact .string _
  | other text => exact .string _

/-! ### Reading -/

theorem ScalarText.reads {text : String} {d : Document} (scalar : ScalarText text d) :
    Reads text.toList d := by
  cases scalar with
  | null => exact Reads.null
  | bool b => exact Reads.bool b
  | number _ reads => exact reads
  | string s => exact Reads.string s

theorem readsMember {name text : String} {d : Document} (reads : Reads text.toList d) :
    ReadsMember [] (quoted name ++ ":" ++ text).toList (name, d) := by
  refine ⟨text.toList, ?_, reads⟩
  simp only [String.toList_append, List.append_assoc]
  rfl

theorem reads_members {texts : List String} {members : List (String × Document)}
    (reads : List.Forall₂ (ReadsMember []) (texts.map String.toList) members) :
    Reads ("\x7b" ++ ",".intercalate texts ++ "\x7d").toList (.object members) := by
  have read := Reads.object isGap_nil reads
  rw [String.toList_append, String.toList_append, String.toList_intercalate]
  exact read

mutual

theorem reads_json (tagName : String) : (v : Value) →
    Reads (v.json tagName).toList (v.document tagName)
  | .scalar s => (scalarText s).reads
  | .sequence items => by
    have read := Reads.array isGap_nil (reads_itemJsons tagName items)
    rw [Value.json, String.toList_append, String.toList_append, String.toList_intercalate]
    exact read
  | .record tag members => by
    -- The tag is one more member after the record's own, and the only one of a record without any.
    have own := reads_memberJsons tagName members
    have tagged : List.Forall₂ (ReadsMember [])
        ((tag.map fun t => quoted tagName ++ ":" ++ quoted t).toList.map String.toList)
        (tag.map fun t => (tagName, Document.string t)).toList := by
      cases tag with
      | none => exact .nil
      | some t => exact .cons (readsMember (Reads.string t)) .nil
    rw [Value.json]
    apply reads_members
    rw [List.map_append]
    exact List.rel_append own tagged
  | .dictionary entries => by
    rw [Value.json]
    exact reads_members (reads_entryJsons tagName entries)

theorem reads_itemJsons (tagName : String) : (vs : List Value) →
    List.Forall₂ Reads ((itemJsons tagName vs).map String.toList) (itemDocuments tagName vs)
  | [] => .nil
  | v :: vs => .cons (reads_json tagName v) (reads_itemJsons tagName vs)

theorem reads_memberJsons (tagName : String) : (ms : List (String × Value)) →
    List.Forall₂ (ReadsMember []) ((memberJsons tagName ms).map String.toList)
      (memberDocuments tagName ms)
  | [] => .nil
  | (_, v) :: ms => .cons (readsMember (reads_json tagName v)) (reads_memberJsons tagName ms)

theorem reads_entryJsons (tagName : String) : (es : List (Scalar × Value)) →
    List.Forall₂ (ReadsMember []) ((entryJsons tagName es).map String.toList)
      (entryDocuments tagName es)
  | [] => .nil
  | (_, v) :: es => .cons (readsMember (reads_json tagName v)) (reads_entryJsons tagName es)

end

end Json

namespace Value

/-- The text of a value is one JSON text, and it denotes the value's document. -/
theorem parse_json (tagName : String) (v : Value) :
    Json.Document.parse? (v.json tagName) = some (v.document tagName) :=
  Json.parse?_of_reads (Json.reads_json tagName v)

example :
    json "$type" (.record (some "A\"B")
        [("a\tb", .sequence [.scalar (.string "c:\\d,\x01"), .scalar .null]),
          ("when", .scalar (.date ⟨2024, 2, 29, by decide⟩)),
          ("", .dictionary [(.char '"', .scalar (.f32 0x7fc00000))])]) =
      "\x7b\"a\\tb\":[\"c:\\\\d,\\u0001\",null],\"when\":\"2024-02-29\"," ++
        "\"\":\x7b\"\\\"\":\"NaN\"\x7d,\"$type\":\"A\\\"B\"\x7d" := by
  decide +kernel

end Value

end StructuredLog
