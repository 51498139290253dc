import StructuredLog.Event.Writer
import StructuredLog.Message.Writer
import StructuredLog.Proofs.Output.Delivery

/-!
Values, messages and event lines, written part by part. Each writer leaves every sink as one write
of the whole text would: it fails if the refused character is anywhere in the text, and then nothing
from that character on has reached the sink.
-/

namespace StructuredLog

open Writer

/-! ### Strings -/

theorem escapeQuotes_cons (c : Char) (cs : List Char) :
    escapeQuotes (c :: cs) = (if c = '"' then ['\\', '"'] else [c]) ++ escapeQuotes cs :=
  List.flatMap_cons

/-- Escaping every quote puts an escaped quote between the runs without quotes. -/
theorem escapeQuotes_eq (cs : List Char) :
    escapeQuotes cs = ['\\', '"'].intercalate (Text.split '"' cs) := by
  induction cs with
  | nil => rfl
  | cons c cs ih =>
    obtain ⟨run, runs, split⟩ := List.exists_cons_of_ne_nil (Text.split_ne_nil '"' cs)
    rw [escapeQuotes_cons, ih, split, Text.split, split]
    by_cases quote : c = '"'
    · rw [if_pos quote, if_pos quote, List.intercalate_cons_cons]
      rfl
    · rw [if_neg quote, if_neg quote]
      cases runs with
      | nil => rw [List.intercalate_singleton, List.intercalate_singleton]; rfl
      | cons run' runs => rw [List.intercalate_cons_cons, List.intercalate_cons_cons]; rfl

theorem delivers_quotedPlain (s : String) : Delivers (quotedPlainWriter s) (quotedPlain s) := by
  have each : List.Forall₂ Delivers
      ((Text.split '"' s.toList).map fun run => put (String.ofList run))
      ((Text.split '"' s.toList).map String.ofList) := by
    rw [List.forall₂_map_left_iff, List.forall₂_map_right_iff, List.forall₂_same]
    exact fun run _ => delivers_put _
  have between := delivers_separated (delivers_put "\\\"") each
  have whole := (delivers_put "\"").cons (between.cons ((delivers_put "\"").cons delivers_nil))
  have text : quotedPlain s = "\"" ++ ("\\\"".intercalate
      ((Text.split '"' s.toList).map String.ofList) ++ ("\"" ++ "")) := by
    rw [quotedPlain, escapeQuotes_eq, ← String.toList_inj]
    simp [String.toList_intercalate, Function.comp_def]
  rw [text]
  exact whole

/-- The run that is kept back stands before the escaped rest. -/
theorem delivers_escaped (kept cs : List Char) :
    Delivers (inOrder (Json.escapedWriters kept cs))
      (String.ofList (kept.reverse ++ cs.flatMap Json.escape)) := by
  induction cs generalizing kept with
  | nil =>
    have whole := (delivers_put (String.ofList kept.reverse)).cons delivers_nil
    simpa only [Json.escapedWriters, List.flatMap_nil, List.append_nil, String.append_empty]
      using whole
  | cons c cs ih =>
    rw [Json.escapedWriters]
    split
    · next itself =>
      have longer := ih (c :: kept)
      rw [List.flatMap_cons, itself]
      simpa only [List.reverse_cons, List.append_assoc] using longer
    · have whole := (delivers_put (String.ofList kept.reverse)).cons
        ((delivers_put (String.ofList (Json.escape c))).cons (ih []))
      simpa only [List.flatMap_cons, String.ofList_append, List.reverse_nil, List.nil_append]
        using whole

theorem delivers_quoted (s : String) : Delivers (Json.quotedWriter s) (Json.quoted s) := by
  have whole := (delivers_put "\"").cons
    ((delivers_escaped [] s.toList).cons ((delivers_put "\"").cons delivers_nil))
  have text : Json.quoted s = "\"" ++ (String.ofList
      (List.reverse [] ++ s.toList.flatMap Json.escape) ++ ("\"" ++ "")) := by
    rw [Json.quoted, ← String.toList_inj]
    simp
  rw [text]
  exact whole

/-! ### Scalars -/

theorem delivers_if (p : Prop) [Decidable p] {w w' : Writer} {s s' : String}
    (yes : Delivers w s) (no : Delivers w' s') :
    Delivers (if p then w else w') (if p then s else s') := by
  split
  · exact yes
  · exact no

theorem delivers_duration (d : Duration) : Delivers d.writer d.text := by
  have days := delivers_if (d.seconds / 86400 = 0) delivers_nil
    (delivers_put (toString (d.seconds / 86400) ++ "."))
  have clock := delivers_put (Calendar.two (d.seconds % 86400 / 3600) ++ ":" ++
    Calendar.two (d.seconds % 3600 / 60) ++ ":" ++ Calendar.two (d.seconds % 60))
  have places := delivers_if (d.nanos / 100 = 0) delivers_nil
    (delivers_put ("." ++ Text.padded 7 (d.nanos / 100)))
  have whole := days.cons (clock.cons (places.cons delivers_nil))
  unfold Duration.writer Duration.text
  simpa only [String.append_assoc, String.append_empty] using whole

theorem delivers_text (s : Scalar) : Delivers s.textWriter s.text := by
  cases s with
  | duration d => exact delivers_duration d
  | _ => exact delivers_put _

theorem delivers_formatted (s : Scalar) (format : Option String) :
    Delivers (s.formattedWriter format) (s.formatted format) := by
  unfold Scalar.formattedWriter Scalar.formatted
  cases format.bind s.format? with
  | none => exact delivers_text s
  | some t => exact delivers_put t

theorem delivers_scalar (s : Scalar) (format : Option String) (provider : Provider) :
    Delivers (s.writer format provider) (s.render format provider) := by
  cases s with
  | null => exact delivers_put _
  | string t => exact delivers_if _ (delivers_put t) (delivers_quotedPlain t)
  | _ =>
    unfold Scalar.writer Scalar.render
    dsimp only
    split
    · next t answer =>
      rw [answer]
      exact delivers_put t
    · next answer =>
      rw [answer]
      exact delivers_formatted _ format

/-! ### Values -/

mutual

theorem delivers_value (provider : Provider) :
    (format : Option String) → (v : Value) →
      Delivers (v.writer provider format) (v.text provider format)
  | format, .scalar s => delivers_scalar s format provider
  | format, .sequence items => by
    have between := delivers_separated (delivers_put ", ") (delivers_items provider format items)
    have whole := (delivers_put "[").cons (between.cons ((delivers_put "]").cons delivers_nil))
    rw [Value.writer, Value.text]
    simpa only [String.append_assoc, String.append_empty] using whole
  | format, .record tag members => by
    have between := delivers_separated (delivers_put ", ") (delivers_members provider members)
    have tagged : Delivers ((tag.map fun t => inOrder [put t, put " "]).getD (inOrder []))
        ((tag.map (· ++ " ")).getD "") := by
      cases tag with
      | none => exact delivers_nil
      | some t =>
        have named := (delivers_put t).cons ((delivers_put " ").cons delivers_nil)
        rwa [String.append_empty] at named
    have whole := tagged.cons ((delivers_put "\x7b ").cons
      (between.cons ((delivers_put " \x7d").cons delivers_nil)))
    rw [Value.writer, Value.text]
    simpa only [String.append_assoc, String.append_empty] using whole
  | format, .dictionary entries => by
    have between := delivers_separated (delivers_put ", ") (delivers_entries provider entries)
    have whole := (delivers_put "[").cons (between.cons ((delivers_put "]").cons delivers_nil))
    rw [Value.writer, Value.text]
    simpa only [String.append_assoc, String.append_empty] using whole

theorem delivers_items (provider : Provider) (format : Option String) :
    (vs : List Value) →
      List.Forall₂ Delivers (itemWriters provider format vs) (itemTexts provider format vs)
  | [] => .nil
  | v :: vs => .cons (delivers_value provider format v) (delivers_items provider format vs)

theorem delivers_members (provider : Provider) :
    (ms : List (String × Value)) →
      List.Forall₂ Delivers (memberWriters provider ms) (memberTexts provider ms)
  | [] => .nil
  | (name, v) :: ms => by
    have whole := (delivers_put name).cons ((delivers_put ": ").cons
      ((delivers_value provider none v).cons delivers_nil))
    refine .cons ?_ (delivers_members provider ms)
    simpa only [String.append_assoc, String.append_empty] using whole

theorem delivers_entries (provider : Provider) :
    (es : List (Scalar × Value)) →
      List.Forall₂ Delivers (entryWriters provider es) (entryTexts provider es)
  | [] => .nil
  | (key, v) :: es => by
    have whole := (delivers_put "(").cons ((delivers_scalar key none provider).cons
      ((delivers_put ": ").cons ((delivers_value provider none v).cons
        ((delivers_put ")").cons delivers_nil))))
    refine .cons ?_ (delivers_entries provider es)
    simpa only [String.append_assoc, String.append_empty] using whole

end

/-! ### JSON -/

theorem delivers_betweenQuotes (s : String) :
    Delivers (Json.betweenQuotes s) ("\"" ++ s ++ "\"") := by
  have whole := (delivers_put "\"").cons
    ((delivers_put s).cons ((delivers_put "\"").cons delivers_nil))
  simpa only [Json.betweenQuotes, String.append_assoc, String.append_empty] using whole

theorem delivers_decoded (d : Decimal.Decoded) : Delivers d.jsonWriter d.json := by
  cases d with
  | finite b => exact delivers_put b.text
  | infinite negative => exact delivers_quoted _
  | nan => exact delivers_quoted _

theorem delivers_scalarJson (s : Scalar) : Delivers s.jsonWriter s.json := by
  cases s with
  | null => exact delivers_put _
  | bool b => exact delivers_put _
  | integer n => exact delivers_put _
  | f32 bits => exact delivers_decoded _
  | f64 bits => exact delivers_decoded _
  | zoned t => exact delivers_betweenQuotes _
  | clock t => exact delivers_betweenQuotes _
  | date d => exact delivers_betweenQuotes _
  | time t => exact delivers_betweenQuotes _
  | _ => exact delivers_quoted _

theorem delivers_member (name : String) {item : Writer} {text : String}
    (delivers : Delivers item text) :
    Delivers (Json.memberWriter name item) (Json.quoted name ++ ":" ++ text) := by
  have whole := (delivers_quoted name).cons
    ((delivers_put ":").cons (delivers.cons delivers_nil))
  simpa only [Json.memberWriter, String.append_assoc, String.append_empty] using whole

theorem delivers_bracketed (opening closing : String) {ws : List Writer} {ss : List String}
    (each : List.Forall₂ Delivers ws ss) :
    Delivers (inOrder [put opening, separated (put ",") ws, put closing])
      (opening ++ ",".intercalate ss ++ closing) := by
  have whole := (delivers_put opening).cons ((delivers_separated (delivers_put ",") each).cons
    ((delivers_put closing).cons delivers_nil))
  simpa only [String.append_assoc, String.append_empty] using whole

mutual

theorem delivers_json (tagName : String) :
    (v : Value) → Delivers (v.jsonWriter tagName) (v.json tagName)
  | .scalar s => delivers_scalarJson s
  | .sequence items => delivers_bracketed "[" "]" (delivers_itemJsons tagName items)
  | .record tag members => by
    have tagged : List.Forall₂ Delivers
        (tag.map fun t => Json.memberWriter tagName (Json.quotedWriter t)).toList
        (tag.map fun t => Json.quoted tagName ++ ":" ++ Json.quoted t).toList := by
      cases tag with
      | none => exact .nil
      | some t => exact .cons (delivers_member tagName (delivers_quoted t)) .nil
    exact delivers_bracketed "\x7b" "\x7d"
      (List.rel_append (delivers_memberJsons tagName members) tagged)
  | .dictionary entries => delivers_bracketed "\x7b" "\x7d" (delivers_entryJsons tagName entries)

theorem delivers_itemJsons (tagName : String) :
    (vs : List Value) →
      List.Forall₂ Delivers (itemJsonWriters tagName vs) (itemJsons tagName vs)
  | [] => .nil
  | v :: vs => .cons (delivers_json tagName v) (delivers_itemJsons tagName vs)

theorem delivers_memberJsons (tagName : String) :
    (ms : List (String × Value)) →
      List.Forall₂ Delivers (memberJsonWriters tagName ms) (memberJsons tagName ms)
  | [] => .nil
  | (name, v) :: ms =>
    .cons (delivers_member name (delivers_json tagName v)) (delivers_memberJsons tagName ms)

theorem delivers_entryJsons (tagName : String) :
    (es : List (Scalar × Value)) →
      List.Forall₂ Delivers (entryJsonWriters tagName es) (entryJsons tagName es)
  | [] => .nil
  | (key, v) :: es =>
    .cons (delivers_member key.text (delivers_json tagName v)) (delivers_entryJsons tagName es)

end

/-! ### Messages and event lines -/

theorem delivers_inMessage (flags : MessageFlags) (provider : Provider) (format : Option String)
    (v : Value) : Delivers (v.inMessageWriter flags provider format)
      (v.inMessage flags provider format) := by
  have form : Delivers
      (if flags.json && format.isNone then v.jsonWriter Json.messageTagName
        else v.writer provider format)
      (if flags.json && format.isNone then v.json Json.messageTagName
        else v.text provider format) :=
    delivers_if _ (delivers_json _ v) (delivers_value provider format v)
  cases v with
  | scalar s =>
    cases s with
    | string s => exact delivers_if _ (delivers_put s) form
    | _ => exact form
  | _ => exact form

theorem delivers_tokenInMessage (flags : MessageFlags) (provider : Provider) (props : PropertyMap)
    (token : Token) : Delivers (token.inMessageWriter flags provider props)
      (token.inMessage flags provider props) := by
  cases token with
  | text s => exact delivers_put s
  | placeholder p =>
    unfold Token.inMessageWriter Token.inMessage
    dsimp only
    cases props.get? p.name with
    | none => exact delivers_put p.source
    | some v =>
      have body := delivers_inMessage flags provider p.format v
      cases p.alignment with
      | none => exact body
      | some a => exact body.buffered (delivers_padded (some a) _)

theorem delivers_message (t : Template) (flags : MessageFlags) (provider : Provider)
    (props : PropertyMap) : Delivers (t.messageWriter flags provider props)
      (String.join (t.message flags provider props)) := by
  apply delivers_inOrder
  rw [Template.message, List.forall₂_map_left_iff, List.forall₂_map_right_iff, List.forall₂_same]
  exact fun token _ => delivers_tokenInMessage flags provider props token

theorem intercalate_cons_join (sep s : String) (ss : List String) :
    sep.intercalate (s :: ss) = s ++ String.join (ss.map (sep ++ ·)) := by
  induction ss generalizing s with
  | nil => rw [String.intercalate_singleton, List.map_nil, String.join_nil, String.append_empty]
  | cons s' ss ih =>
    rw [String.intercalate_cons_cons, ih, List.map_cons, String.join_cons, String.append_assoc,
      String.append_assoc]

/-- Every member of an event line but the first has its comma before it. -/
theorem compact_eq (e : Event) (tagName : String) :
    e.compact tagName = "\x7b\"@t\":" ++ (Json.quoted (Calendar.zonedText e.timestamp) ++
      (",\"@mt\":" ++ (Json.quoted e.template.text ++
      ((if e.level = .information then "" else ",\"@l\":" ++ Json.quoted e.level.name) ++
      ((e.exception.map fun x => ",\"@x\":" ++ Json.quoted x.fullText).getD "" ++
      (String.join (e.properties.entries.map fun (name, v) =>
        "," ++ (Json.quoted (compactName name) ++ ":" ++ v.json tagName)) ++ "\x7d\n")))))) := by
  have level : String.join (List.map ("," ++ ·)
      (if e.level = .information then [] else ["\"@l\":" ++ Json.quoted e.level.name])) =
      if e.level = .information then "" else ",\"@l\":" ++ Json.quoted e.level.name := by
    split
    · rfl
    · simp [← String.toList_inj]
  have exception : String.join (List.map ("," ++ ·)
      (e.exception.map fun x => "\"@x\":" ++ Json.quoted x.fullText).toList) =
      (e.exception.map fun x => ",\"@x\":" ++ Json.quoted x.fullText).getD "" := by
    cases e.exception with
    | none => rfl
    | some x => simp [← String.toList_inj]
  rw [Event.compact, Event.compactMembers, List.cons_append, List.cons_append, List.cons_append,
    intercalate_cons_join]
  simp only [List.map_cons, List.map_append, String.join_cons, String.join_append,
    List.cons_append, List.nil_append, level, exception, List.map_map, Function.comp_def]
  rw [← String.toList_inj]
  simp [String.append_assoc]

theorem delivers_compact (e : Event) (tagName : String) :
    Delivers (e.compactWriter tagName) (e.compact tagName) := by
  have level := delivers_if (e.level = .information) delivers_nil
    ((delivers_put ",\"@l\":").cons ((delivers_quoted e.level.name).cons delivers_nil))
  have exception : Delivers
      ((e.exception.map fun x => inOrder [put ",\"@x\":", Json.quotedWriter x.fullText]).getD
        (inOrder []))
      ((e.exception.map fun x => ",\"@x\":" ++ Json.quoted x.fullText).getD "") := by
    cases e.exception with
    | none => exact delivers_nil
    | some x =>
      have both := (delivers_put ",\"@x\":").cons ((delivers_quoted x.fullText).cons delivers_nil)
      rwa [String.append_empty] at both
  have properties : Delivers
      (inOrder (e.properties.entries.map fun (name, v) =>
        (put ",").andThen (Json.memberWriter (compactName name) (v.jsonWriter tagName))))
      (String.join (e.properties.entries.map fun (name, v) =>
        "," ++ (Json.quoted (compactName name) ++ ":" ++ v.json tagName))) := by
    apply delivers_inOrder
    rw [List.forall₂_map_left_iff, List.forall₂_map_right_iff, List.forall₂_same]
    exact fun (name, v) _ => (delivers_put ",").andThen
      (delivers_member (compactName name) (delivers_json tagName v))
  rw [compact_eq]
  have whole := (delivers_put "\x7b\"@t\":").cons
    ((delivers_quoted (Calendar.zonedText e.timestamp)).cons ((delivers_put ",\"@mt\":").cons
      ((delivers_quoted e.template.text).cons (level.cons (exception.cons
        (properties.cons ((delivers_put "\x7d\n").cons delivers_nil)))))))
  unfold Event.compactWriter
  simpa only [String.append_empty] using whole

end StructuredLog
