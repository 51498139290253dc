import StructuredLog.Entry.Formatter
import StructuredLog.Proofs.Capture.Lenient
import StructuredLog.Proofs.Capture.Parts
import StructuredLog.Proofs.Event.History

/-!
Entries bound to events. An argument gives a property under the hint that its key is marked with, or
none if its name is blank. The arguments are gone through in order up to the first whose capture
fails, and that failure is the entry's; if there is none, what they give is put into the event one
after the other, and then the category and the number of the entry.
-/

namespace StructuredLog

open Capture

/-! ### Properties one after the other -/

namespace PropertyMap

theorem ofList_concat (es : List (String × Value)) (name : String) (v : Value) :
    ofList (es ++ [(name, v)]) = (ofList es).insert name v := by
  rw [ofList, List.foldl_append]
  rfl

/-- Names stand in the order in which they came first. -/
theorem names_ofList (es : List (String × Value)) :
    (ofList es).names = (es.map (·.1)).eraseDups := by
  induction es using List.reverseRecOn with
  | nil => rfl
  | append_singleton es e ih =>
    rw [ofList_concat, names_insert, ih, List.map_append, List.map_singleton,
      List.eraseDups_append]
    simp only [List.mem_eraseDups]
    split
    · next held => simp [List.removeAll, held]
    · next new => simp [List.removeAll, List.eraseDups_cons, new]

/-- The last value of a name counts. -/
theorem get?_ofList (es : List (String × Value)) (name : String) :
    (ofList es).get? name = es.reverse.lookup name := by
  induction es using List.reverseRecOn with
  | nil => rfl
  | append_singleton es e ih =>
    rw [ofList_concat, get?_insert, ih, List.reverse_append, List.reverse_singleton,
      List.singleton_append, Keyed.lookup_cons_if]

end PropertyMap

theorem Event.make_of_valid {props : List (String × Value)}
    (valid : ∀ p ∈ props, isPropertyName p.1 = true) (timestamp : ZonedDateTime) (level : Level)
    (exception : Option Exception) (template : Template) :
    make timestamp level exception template props =
      .ok ⟨timestamp, level, exception, template, .ofList props⟩ := by
  have writes : (props.map fun p => Change.set p.1 p.2).foldl (fun m c => c.onProperties m) {} =
      PropertyMap.ofList props := by
    rw [List.foldl_map]
    exact List.foldl_ext _ _ _ fun m p mem => if_pos (valid p mem)
  rw [make_eq, if_pos valid, writes]

namespace Entry

/-! ### Arguments -/

/-- A key is a name, which the mark of a hint may stand before. -/
inductive Named : String → String → Hint → Prop
  | destructured {name} : Named ("@" ++ name) name .destructure
  | stringified {name} : Named ("$" ++ name) name .stringify
  | unmarked {key} :
      key.toList.head? ≠ some '@' → key.toList.head? ≠ some '$' → Named key key .default

theorem named_iff {key name : String} {hint : Hint} :
    Named key name hint ↔ splitHint key = (name, hint) := by
  constructor
  · intro named
    cases named with
    | destructured => simp [splitHint, Hint.ofMark?]
    | stringified => simp [splitHint, Hint.ofMark?]
    | unmarked noAt noDollar =>
      unfold splitHint
      cases chars : key.toList with
      | nil => rfl
      | cons c rest =>
        rw [chars, List.head?_cons, Ne, Option.some_inj] at noAt noDollar
        dsimp only
        rw [Hint.ofMark?.eq_3 c noAt noDollar, Option.map_none, Option.getD_none]
  · rintro split
    unfold splitHint at split
    cases chars : key.toList with
    | nil =>
      rw [chars] at split
      cases split
      exact .unmarked (by simp [chars]) (by simp [chars])
    | cons c rest =>
      have marked : key = String.ofList [c] ++ String.ofList rest := by
        rw [← String.ofList_append, List.singleton_append, ← chars, String.ofList_toList]
      rw [chars] at split
      by_cases isAt : c = '@'
      · subst isAt
        cases split
        rw [marked]
        exact .destructured
      by_cases isDollar : c = '$'
      · subst isDollar
        cases split
        rw [marked]
        exact .stringified
      · dsimp only at split
        rw [Hint.ofMark?.eq_3 c isAt isDollar, Option.map_none, Option.getD_none] at split
        cases split
        exact .unmarked (by simp [chars, isAt]) (by simp [chars, isDollar])

section Arguments

variable (c : Converter α) (h : Host α)

/-- What an argument gives that does not fail. One whose name is blank gives nothing, and is not
captured. -/
inductive Gives : String × α → Option (String × Value) → Prop
  | blank {key a name hint} :
      Named key name hint → isPropertyName name = false → Gives (key, a) none
  | property {key a name hint v} :
      Named key name hint → isPropertyName name = true → (c.capture h a hint).result = .ok v →
      Gives (key, a) (some (name, v))

/-- The arguments give these properties, in order. -/
def ArgumentsGive (arguments : List (String × α)) (properties : List (String × Value)) : Prop :=
  ∃ given, List.Forall₂ (Gives c h) arguments given ∧ given.reduceOption = properties

/-- The first argument that fails, and how it does. -/
inductive FirstFailure (e : CaptureError) : List (String × α) → Prop
  | here {key a name hint rest} :
      Named key name hint → isPropertyName name = true → (c.capture h a hint).result = .error e →
      FirstFailure e ((key, a) :: rest)
  | later {argument given rest} :
      Gives c h argument given → FirstFailure e rest → FirstFailure e (argument :: rest)

end Arguments

section Captured

variable {c : Converter α} {h : Host α} {e : Entry α} {arguments : List (String × α)}

/-- The entry with other arguments. -/
def withArguments (e : Entry α) (arguments : List (String × α)) : Entry α := { e with arguments }

theorem captured_of_blank {key name : String} {hint : Hint} (named : Named key name hint)
    (blank : isPropertyName name = false) (a : α) :
    (e.withArguments ((key, a) :: arguments)).captured c h =
      (e.withArguments arguments).captured c h := by
  simp [captured, Entry.named, withArguments, named_iff.mp named, blank]

theorem captured_of_property {key name : String} {hint : Hint} (named : Named key name hint)
    (proper : isPropertyName name = true) (a : α) :
    (e.withArguments ((key, a) :: arguments)).captured c h =
      (c.capture h a hint).bind fun v =>
        ((e.withArguments arguments).captured c h).bind fun ps => .pure ((name, v) :: ps) := by
  simp [captured, Entry.named, withArguments, named_iff.mp named, proper, Outcome.each,
    Outcome.bind_assoc, Outcome.pure_bind]

theorem captured_eq_ok {properties : List (String × Value)}
    (give : ArgumentsGive c h arguments properties) :
    ((e.withArguments arguments).captured c h).result = .ok properties := by
  obtain ⟨given, all, rfl⟩ := give
  induction all with
  | nil => rfl
  | cons gives _ ih =>
    cases gives with
    | blank named blank =>
      rw [captured_of_blank named blank, ih, List.reduceOption_cons_of_none]
    | property named proper ok =>
      rw [captured_of_property named proper, Outcome.result_bind_eq_ok]
      exact ⟨_, ok, Outcome.result_bind_eq_ok.mpr ⟨_, ih, rfl⟩⟩

theorem captured_eq_error {err : CaptureError} (first : FirstFailure c h err arguments) :
    ((e.withArguments arguments).captured c h).result = .error err := by
  induction first with
  | here named proper failed =>
    rw [captured_of_property named proper, Outcome.bind, failed]
  | later gives _ ih =>
    cases gives with
    | blank named blank => rw [captured_of_blank named blank, ih]
    | property named proper ok =>
      rw [captured_of_property named proper, Outcome.bind, ok]
      simp only [Outcome.bind, ih]

theorem argumentsGive_or_firstFailure (c : Converter α) (h : Host α)
    (arguments : List (String × α)) :
    (∃ properties, ArgumentsGive c h arguments properties) ∨
      ∃ err, FirstFailure c h err arguments := by
  induction arguments with
  | nil => exact .inl ⟨[], [], .nil, rfl⟩
  | cons argument arguments ih =>
    obtain ⟨key, a⟩ := argument
    have named : Named key _ _ := named_iff.mpr rfl
    -- Whatever the argument gives, the others decide.
    have go {given : Option (String × Value)} (gives : Gives c h (key, a) given) :
        (∃ properties, ArgumentsGive c h ((key, a) :: arguments) properties) ∨
          ∃ err, FirstFailure c h err ((key, a) :: arguments) := by
      obtain ⟨_, others, all, rfl⟩ | ⟨err, first⟩ := ih
      · exact .inl ⟨_, _, .cons gives all, rfl⟩
      · exact .inr ⟨err, .later gives first⟩
    by_cases proper : isPropertyName (splitHint key).1 = true
    · cases result : (c.capture h a (splitHint key).2).result with
      | ok v => exact go (.property named proper result)
      | error err => exact .inr ⟨err, .here named proper result⟩
    · exact go (.blank named (Bool.eq_false_iff.mpr proper))

end Captured

theorem isPropertyName_of_argumentsGive {c : Converter α} {h : Host α}
    {arguments : List (String × α)} {properties : List (String × Value)}
    (give : ArgumentsGive c h arguments properties) :
    ∀ p ∈ properties, isPropertyName p.1 = true := by
  obtain ⟨given, all, rfl⟩ := give
  induction all with
  | nil => exact List.forall_mem_nil _
  | cons gives _ ih =>
    cases gives with
    | blank => exact ih
    | property named proper ok => exact List.forall_mem_cons.mpr ⟨proper, ih⟩

/-! ### Category and number -/

inductive CategoryGives : Option String → List (String × Value) → Prop
  | absent : CategoryGives none []
  | empty : CategoryGives (some "") []
  | given {category} :
      category ≠ "" → CategoryGives (some category) [("Category", .scalar (.string category))]

inductive EventIdGives : Option EventId → List (String × Value) → Prop
  | absent : EventIdGives none []
  | empty {id} : id.number = 0 → id.name = none → EventIdGives (some id) []
  | given {id} : id.number ≠ 0 ∨ id.name ≠ none → EventIdGives (some id) [("EventId", id.value)]

theorem categoryGives_iff {category : Option String} {properties : List (String × Value)} :
    CategoryGives category properties ↔
      properties = ((category.filter (!·.isEmpty)).map fun c =>
        (categoryName, Value.scalar (.string c))).toList := by
  constructor
  · rintro (_ | _ | @⟨category, nonempty⟩)
    · rfl
    · rfl
    · simp [Option.filter, nonempty, categoryName]
  · rintro rfl
    cases category with
    | none => exact .absent
    | some category =>
      by_cases empty : category = ""
      · subst empty
        exact .empty
      · simpa [Option.filter, empty, categoryName] using CategoryGives.given empty

theorem isEmpty_iff {id : EventId} : id.isEmpty = true ↔ id.number = 0 ∧ id.name = none := by
  simp [EventId.isEmpty]

theorem eventIdGives_iff {eventId : Option EventId} {properties : List (String × Value)} :
    EventIdGives eventId properties ↔
      properties = ((eventId.filter (!·.isEmpty)).map fun id =>
        (eventIdName, id.value)).toList := by
  constructor
  · rintro (_ | @⟨id, zero, nameless⟩ | @⟨id, given⟩)
    · rfl
    · simp [Option.filter, isEmpty_iff.mpr ⟨zero, nameless⟩]
    · have notEmpty := isEmpty_iff.not.mpr (not_and_or.mpr given)
      simp [Option.filter, notEmpty, eventIdName]
  · rintro rfl
    cases eventId with
    | none => exact .absent
    | some id =>
      by_cases empty : id.isEmpty = true
      · obtain ⟨zero, nameless⟩ := isEmpty_iff.mp empty
        simpa [Option.filter, empty] using EventIdGives.empty zero nameless
      · have given := not_and_or.mp (isEmpty_iff.not.mp empty)
        simpa [Option.filter, empty, eventIdName] using EventIdGives.given given

/-- All that an entry gives, if no argument fails. -/
inductive GivesAll (c : Converter α) (h : Host α) (e : Entry α) : List (String × Value) → Prop
  | intro {properties category eventId} :
      ArgumentsGive c h e.arguments properties → CategoryGives e.category category →
      EventIdGives e.eventId eventId → GivesAll c h e (properties ++ (category ++ eventId))

section Bind

variable {c : Converter α} {h : Host α} {e : Entry α}

theorem givesAll_iff {all : List (String × Value)} :
    GivesAll c h e all ↔ ∃ properties, ArgumentsGive c h e.arguments properties ∧
      all = properties ++ e.extras := by
  constructor
  · rintro ⟨give, ofCategory, ofEventId⟩
    exact ⟨_, give, by rw [extras, categoryGives_iff.mp ofCategory, eventIdGives_iff.mp ofEventId]⟩
  · rintro ⟨properties, give, rfl⟩
    exact .intro give (categoryGives_iff.mpr rfl) (eventIdGives_iff.mpr rfl)

theorem isPropertyName_categoryName : isPropertyName categoryName = true := by decide +kernel

theorem isPropertyName_eventIdName : isPropertyName eventIdName = true := by decide +kernel

theorem isPropertyName_of_givesAll {all : List (String × Value)} (gives : GivesAll c h e all) :
    ∀ p ∈ all, isPropertyName p.1 = true := by
  obtain ⟨give, ofCategory, ofEventId⟩ := gives
  refine List.forall_mem_append.mpr ⟨isPropertyName_of_argumentsGive give,
    List.forall_mem_append.mpr ⟨?_, ?_⟩⟩
  · generalize e.category = category at ofCategory
    cases ofCategory with
    | given => exact List.forall_mem_singleton.mpr isPropertyName_categoryName
    | _ => exact List.forall_mem_nil _
  · generalize e.eventId = eventId at ofEventId
    cases ofEventId with
    | given => exact List.forall_mem_singleton.mpr isPropertyName_eventIdName
    | _ => exact List.forall_mem_nil _

variable (template : Template) (now : ZonedDateTime)

theorem bind_eq_ok {all : List (String × Value)} (gives : GivesAll c h e all) :
    (e.bind c h template now).2 =
      .ok ⟨e.timestamp.getD now, e.level, e.exception, template, .ofList all⟩ := by
  obtain ⟨properties, give, rfl⟩ := givesAll_iff.mp gives
  have ok : (e.captured c h).result = .ok properties := captured_eq_ok (e := e) give
  have made := Event.make_of_valid (isPropertyName_of_givesAll gives) (e.timestamp.getD now)
    e.level e.exception template
  simp only [Entry.bind, ok, Except.mapError, Bind.bind, Except.bind, made]

theorem bind_eq_error {err : CaptureError} (first : FirstFailure c h err e.arguments) :
    (e.bind c h template now).2 = .error (.capture err) := by
  have failed : (e.captured c h).result = .error err := captured_eq_error (e := e) first
  simp only [Entry.bind, failed]
  rfl

theorem givesAll_or_firstFailure (c : Converter α) (h : Host α) (e : Entry α) :
    (∃ all, GivesAll c h e all) ∨ ∃ err, FirstFailure c h err e.arguments := by
  obtain ⟨properties, give⟩ | failure := argumentsGive_or_firstFailure c h e.arguments
  · exact .inl ⟨_, givesAll_iff.mpr ⟨properties, give, rfl⟩⟩
  · exact .inr failure

theorem not_firstFailure (total : ∀ a hint, ∃ v, (c.capture h a hint).result = .ok v)
    (err : CaptureError) (arguments : List (String × α)) : ¬FirstFailure c h err arguments := by
  intro first
  induction first with
  | @here key a name hint rest named proper failed =>
    obtain ⟨v, ok⟩ := total a hint
    rw [ok] at failed
    contradiction
  | later _ _ ih => exact ih

end Bind

end Entry

namespace Formatter

theorem format_of_error {f : Formatter α} {h : Host α} {e : Entry α} {now : ZonedDateTime}
    {k : Sink} {err : BindError} (failed : (f.event h e now).2.2 = .error err) :
    (f.format h e now k).2.2 = (k, .error (.bind err)) := by
  simp only [Formatter.format, failed]

/-- An entry is bound to the event that has what the arguments give, in order, and then category
and number: names in the order in which they came first, each with the value that came last. It
fails exactly with the first failure of an argument, so never for a name, and never where captures
are lenient and no policy fails of its own accord. Where it fails nothing is written. -/
theorem event_of_entry (f : Formatter α) (h : Host α) (e : Entry α) (now : ZonedDateTime)
    (k : Sink) :
    let bound := (f.event h e now).2.2
    (∀ event, bound = .ok event ↔ ∃ all, e.GivesAll f.converter h all ∧
      event = ⟨e.timestamp.getD now, e.level, e.exception, (f.cache.parse e.template).2.1.template,
        .ofList all⟩ ∧
      event.properties.names = (all.map (·.1)).eraseDups ∧
      ∀ name, event.properties.get? name = all.reverse.lookup name) ∧
    (∀ err, bound = .error err ↔
      ∃ failure, err = .capture failure ∧ Entry.FirstFailure f.converter h failure e.arguments) ∧
    (f.converter.strict = false → (∀ p ∈ f.converter.policies, p.Unfailing) →
      ∃ event, bound = .ok event) ∧
    ∀ err, bound = .error err → (f.format h e now k).2.2 = (k, .error (.bind err)) := by
  intro bound
  let template := (f.cache.parse e.template).2.1.template
  have ok {all : List (String × Value)} (gives : e.GivesAll f.converter h all) :
      bound = .ok ⟨e.timestamp.getD now, e.level, e.exception, template, .ofList all⟩ :=
    Entry.bind_eq_ok template now gives
  have error {failure : CaptureError}
      (first : Entry.FirstFailure f.converter h failure e.arguments) :
      bound = .error (.capture failure) := Entry.bind_eq_error template now first
  have either := Entry.givesAll_or_firstFailure f.converter h e
  refine ⟨fun event => ⟨fun isEvent => ?_, ?_⟩, fun err => ⟨fun isError => ?_, ?_⟩, ?_, ?_⟩
  · obtain ⟨all, gives⟩ | ⟨failure, first⟩ := either
    · rw [ok gives] at isEvent
      cases isEvent
      exact ⟨all, gives, rfl, PropertyMap.names_ofList all, PropertyMap.get?_ofList all⟩
    · rw [error first] at isEvent
      contradiction
  · rintro ⟨all, gives, rfl, -⟩
    exact ok gives
  · obtain ⟨all, gives⟩ | ⟨failure, first⟩ := either
    · rw [ok gives] at isError
      contradiction
    · rw [error first] at isError
      cases isError
      exact ⟨failure, rfl, first⟩
  · rintro ⟨failure, rfl, first⟩
    exact error first
  · intro lenient unfailing
    have total := Converter.exists_result_of_unfailing lenient unfailing h
    obtain ⟨all, gives⟩ | ⟨failure, first⟩ := either
    · exact ⟨_, ok gives⟩
    · exact absurd first (Entry.not_firstFailure total failure _)
  · exact fun err => format_of_error

/-- Passwords are captured as a star. -/
def masking : Policy Subject := .transform fun
  | .node look =>
    if look.type.fullName = "Password" then some (.plain "String" (.scalar (.string "*"))) else none
  | .link _ => none

/-- A name that comes twice, once with a mark, and one that is blank. -/
def login : Entry Subject where
  level := .information
  template := "\x7bUser\x7d"
  arguments := [("User", .plain "String" (.scalar (.string "ada"))),
    (" ", .plain "bool" (.scalar (.bool true))), ("@Key", .plain "Password" (.object [])),
    ("$User", .plain "String" (.scalar (.string "eve")))]
  category := some "Login"

theorem event_of_login :
    let f : Formatter Subject := ⟨{ policies := [masking] }, .plain, .none, .parse "", {}⟩
    let midnight : ZonedDateTime := ⟨⟨⟨2024, 1, 1, by decide⟩, ⟨0, 0, 0, 0, by decide⟩⟩, .utc⟩
    let shown (event : Event) := event.properties.entries.map fun p => (p.1, p.2.text .none none)
    ∃ event, (f.event Subject.rings login midnight).2.2 = .ok event ∧
      shown event = [("User", "\"eve\""), ("Key", "\"*\""), ("Category", "\"Login\"")] := by
  intro f midnight shown
  obtain ⟨-, -, lenient, -⟩ := event_of_entry f Subject.rings login midnight ⟨none, ""⟩
  obtain ⟨event, isEvent⟩ := lenient rfl
    (List.forall_mem_singleton.mpr (Policy.unfailing_transform _))
  have properties : (f.event Subject.rings login midnight).2.2.toOption.map shown =
      some [("User", "\"eve\""), ("Key", "\"*\""), ("Category", "\"Login\"")] := by
    decide +kernel
  rw [isEvent] at properties
  exact ⟨event, isEvent, Option.some_inj.mp properties⟩

end Formatter

end StructuredLog
