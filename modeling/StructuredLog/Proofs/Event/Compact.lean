import StructuredLog.Event.Compact
import StructuredLog.Proofs.Json.Printed

/-!
Event lines: one JSON object each, and no newline but the last character. A property name that
starts with `@` gets a second one, so that no property has the name of a standard member or of
another property, and the names can be read back.
-/

namespace StructuredLog

/-- The property that a member holds, unless it is a standard member. -/
def propertyName? (name : String) : Option String :=
  match name.toList with
  | '@' :: '@' :: rest => some (String.ofList ('@' :: rest))
  | '@' :: _ => none
  | _ => some name

@[simp] theorem propertyName?_compactName (name : String) :
    propertyName? (compactName name) = some name := by
  unfold compactName
  by_cases marked : name.toList.head? = some '@'
  · obtain ⟨rest, eq⟩ := List.head?_eq_some_iff.mp marked
    have doubled : ("@" ++ name).toList = '@' :: '@' :: rest := by
      rw [String.toList_append, eq]
      rfl
    have whole : String.ofList ('@' :: rest) = name := by rw [← eq, String.ofList_toList]
    rw [if_pos marked, propertyName?, doubled]
    exact congrArg some whole
  · rw [if_neg marked, propertyName?]
    split
    · next eq => simp [eq] at marked
    · next eq => simp [eq] at marked
    · rfl

theorem compactName_injective : Function.Injective compactName := by
  intro name name' eq
  have read := propertyName?_compactName name
  rw [eq, propertyName?_compactName] at read
  exact (Option.some.inj read).symm

namespace Event

/-! ### Members -/

def standardMembers (e : Event) : List (String × Json.Document) :=
  [("@t", .string (Calendar.zonedText e.timestamp)), ("@mt", .string e.template.text)] ++
  (if e.level = .information then [] else [("@l", .string e.level.name)]) ++
  (e.exception.map fun x => ("@x", Json.Document.string x.fullText)).toList

def propertyMembers (e : Event) (tagName : String) : List (String × Json.Document) :=
  e.properties.entries.map fun (name, v) => (compactName name, v.document tagName)

def standardNames (e : Event) : List String :=
  ["@t", "@mt"] ++ (if e.level = .information then [] else ["@l"]) ++
    if e.exception.isSome then ["@x"] else []

variable (e : Event) (tagName : String)

theorem names_standardMembers : e.standardMembers.map (·.1) = e.standardNames := by
  unfold standardMembers standardNames
  rw [List.map_append, List.map_append]
  congr 1
  · congr 1
    split <;> rfl
  · cases e.exception <;> rfl

theorem names_propertyMembers :
    (e.propertyMembers tagName).map (·.1) =
      (e.properties.entries.map (·.1)).map compactName := by
  rw [propertyMembers, List.map_map, List.map_map]
  rfl

theorem standardNames_sublist : e.standardNames.Sublist ["@t", "@mt", "@l", "@x"] := by
  unfold standardNames
  split <;> split <;> decide

theorem propertyName?_standard {name : String} (mem : name ∈ e.standardNames) :
    propertyName? name = none := by
  have all : ∀ name ∈ ["@t", "@mt", "@l", "@x"], propertyName? name = none := by decide
  exact all name (e.standardNames_sublist.subset mem)

/-- No member of the line has the name of another one. -/
theorem nodup_names :
    (e.standardNames ++ (e.properties.entries.map (·.1)).map compactName).Nodup := by
  refine List.nodup_append.mpr ⟨e.standardNames_sublist.nodup (by decide), ?_, ?_⟩
  · exact e.properties.nodup.map compactName_injective
  · rintro name standard _ mem rfl
    obtain ⟨own, -, rfl⟩ := List.mem_map.mp mem
    have none := e.propertyName?_standard standard
    rw [propertyName?_compactName] at none
    contradiction

theorem filterMap_names :
    (e.standardNames ++ (e.properties.entries.map (·.1)).map compactName).filterMap
      propertyName? = e.properties.entries.map (·.1) := by
  have standard : e.standardNames.filterMap propertyName? = [] :=
    List.filterMap_eq_nil_iff.mpr fun name mem => e.propertyName?_standard mem
  rw [List.filterMap_append, standard, List.nil_append, List.filterMap_map]
  have undo : propertyName? ∘ compactName = some := funext propertyName?_compactName
  rw [undo, List.filterMap_some]

theorem lookup_exception :
    (e.standardMembers ++ e.propertyMembers tagName).lookup "@x" =
      e.exception.map fun x => .string x.fullText := by
  have noProperty : (e.propertyMembers tagName).lookup "@x" = none := by
    apply Keyed.lookup_eq_none_iff.mpr
    rw [names_propertyMembers]
    intro mem
    obtain ⟨name, -, eq⟩ := List.mem_map.mp mem
    have read := propertyName?_compactName name
    rw [eq] at read
    contradiction
  have noLevel : ((if e.level = .information then [] else
      [("@l", .string e.level.name)]) : List (String × Json.Document)).lookup "@x" = none := by
    split <;> rfl
  rw [List.lookup_append, noProperty, Option.or_none, standardMembers, List.lookup_append,
    List.lookup_append, noLevel]
  cases e.exception <;> rfl

theorem lookup_property (name : String) :
    (e.standardMembers ++ e.propertyMembers tagName).lookup (compactName name) =
      (e.properties.get? name).map (·.document tagName) := by
  have notStandard : e.standardMembers.lookup (compactName name) = none := by
    apply Keyed.lookup_eq_none_iff.mpr
    rw [names_standardMembers]
    intro mem
    have none := e.propertyName?_standard mem
    rw [propertyName?_compactName] at none
    contradiction
  rw [List.lookup_append, notStandard, Option.none_or]
  exact Keyed.lookup_map_keys compactName_injective _ _ name

/-! ### The line -/

section Line

open Json

theorem readsStandard {opening name text : String} (opens : opening = quoted name ++ ":") :
    ReadsMember [] (opening ++ quoted text).toList (name, .string text) := by
  rw [opens]
  exact readsMember (Reads.string text)

theorem reads_compactMembers :
    List.Forall₂ (ReadsMember []) ((e.compactMembers tagName).map String.toList)
      (e.standardMembers ++ e.propertyMembers tagName) := by
  unfold compactMembers standardMembers propertyMembers
  rw [List.map_append, List.map_append, List.map_append]
  refine List.rel_append (List.rel_append (List.rel_append ?_ ?_) ?_) ?_
  · exact .cons (readsStandard (by decide)) (.cons (readsStandard (by decide)) .nil)
  · split
    · exact .nil
    · exact .cons (readsStandard (by decide)) .nil
  · cases e.exception with
    | none => exact .nil
    | some x => exact .cons (readsStandard (by decide)) .nil
  · rw [List.map_map, List.forall₂_map_left_iff, List.forall₂_map_right_iff, List.forall₂_same]
    exact fun p mem => readsMember (reads_json tagName p.2)

theorem printed_compactMembers : ∀ s ∈ e.compactMembers tagName, Printed s := by
  have standard {opening : String} (opens : Printed opening) (text : String) :
      Printed (opening ++ quoted text) := opens.append (printed_quoted text)
  unfold compactMembers
  simp only [List.forall_mem_append]
  refine ⟨⟨⟨?_, ?_⟩, ?_⟩, ?_⟩
  · exact List.forall_mem_cons.mpr ⟨standard (by decide) _,
      List.forall_mem_singleton.mpr (standard (by decide) _)⟩
  · split
    · exact List.forall_mem_nil _
    · exact List.forall_mem_singleton.mpr (standard (by decide) _)
  · cases e.exception with
    | none => exact List.forall_mem_nil _
    | some x => exact List.forall_mem_singleton.mpr (standard (by decide) _)
  · intro s mem
    obtain ⟨p, -, rfl⟩ := List.mem_map.mp mem
    exact printed_member (printed_json tagName p.2)

theorem compact_eq_line :
    ∃ line, e.compact tagName = line ++ "\n" ∧ Printed line ∧
      Reads line.toList (.object (e.standardMembers ++ e.propertyMembers tagName)) := by
  refine ⟨"\x7b" ++ ",".intercalate (e.compactMembers tagName) ++ "\x7d", ?_, ?_, ?_⟩
  · have closing : "\x7d\n" = "\x7d" ++ "\n" := by decide
    rw [compact, closing, ← String.append_assoc]
  · exact printed_object (e.printed_compactMembers tagName)
  · exact reads_members (e.reads_compactMembers tagName)

end Line

/-- An event line has one newline, its last character, and denotes one object. In it each name
occurs once, the message template and the exception stand as they are, and each property is found
under its own name. -/
theorem parse_compact (e : Event) (tagName : String) :
    (∃ line, e.compact tagName = line ++ "\n" ∧ '\n' ∉ line.toList) ∧
    ∃ members, Json.Document.parse? (e.compact tagName) = some (.object members) ∧
      members.map (·.1) =
        ["@t", "@mt"] ++ (if e.level = .information then [] else ["@l"]) ++
          (if e.exception.isSome then ["@x"] else []) ++
          (e.properties.entries.map (·.1)).map compactName ∧
      (members.map (·.1)).Nodup ∧
      members.lookup "@mt" = some (.string e.template.text) ∧
      (members.lookup "@x" = e.exception.map fun x => .string x.fullText) ∧
      (members.map (·.1)).filterMap propertyName? = e.properties.entries.map (·.1) ∧
      ∀ name, members.lookup (compactName name) =
        (e.properties.get? name).map (·.document tagName) := by
  obtain ⟨line, eq, printed, reads⟩ := e.compact_eq_line tagName
  have text : (e.compact tagName).toList = line.toList ++ ['\n'] := by
    rw [eq, String.toList_append]
    rfl
  have blank : Json.IsGap ['\n'] := List.forall_mem_singleton.mpr rfl
  have names : (e.standardMembers ++ e.propertyMembers tagName).map (·.1) =
      e.standardNames ++ (e.properties.entries.map (·.1)).map compactName := by
    rw [List.map_append, names_standardMembers, names_propertyMembers]
  refine ⟨⟨line, eq, printed.notMem_newline⟩, _, Json.parse?_of_reads_gap text reads blank,
    names, ?_, rfl, e.lookup_exception tagName, ?_, e.lookup_property tagName⟩
  · rw [names]
    exact e.nodup_names
  · rw [names]
    exact e.filterMap_names

end Event

end StructuredLog
