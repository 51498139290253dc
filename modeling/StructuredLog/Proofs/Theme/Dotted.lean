import StructuredLog.Proofs.Theme.Part

/-!
Which dotted style strings are accepted, and as what they are written. A string is judged part by
part, each by whether it gives a sequence alone. Colours and effects do. A brightness is a part too
and changes the colour that it stands with, but it gives no sequence alone, so that no string with
one is accepted. Of several colours the last one holds.
-/

namespace StructuredLog.Dotted

/-! ### Looks of several parts -/

def Part.foreground? : Part → Option Colour
  | .foreground c => some c
  | _ => none

def Part.background? : Part → Option Colour
  | .background c => some c
  | _ => none

theorem foldl_add_last (colour : Look → Option Colour) (colour? : Part → Option Colour)
    (step : ∀ l p, colour (l.add p) = (colour? p).or (colour l)) (ps : List Part) (l : Look) :
    colour (ps.foldl Look.add l) = (ps.filterMap colour?).getLast?.or (colour l) := by
  induction ps generalizing l with
  | nil => rfl
  | cons p ps ih =>
    rw [List.foldl_cons, ih, step, List.filterMap_cons]
    cases colour? p with
    | none => rfl
    | some c =>
      dsimp only
      rw [List.getLast?_cons, Option.some_or, Option.some_or]
      cases (ps.filterMap colour?).getLast? <;> rfl

theorem foldl_add_any (has : Look → Bool) (q : Part)
    (step : ∀ l p, has (l.add p) = (decide (q = p) || has l)) (ps : List Part) (l : Look) :
    has (ps.foldl Look.add l) = (decide (q ∈ ps) || has l) := by
  induction ps generalizing l with
  | nil => rfl
  | cons p ps ih =>
    rw [List.foldl_cons, ih, step, ← Bool.or_assoc, ← Bool.decide_or]
    simp only [List.mem_cons, or_comm]

def Colour.codes (base : Nat) (bright : Bool) : Colour → List Nat
  | .named n => if bright then [base + 8, 5, n + 8] else [base + n]
  | .indexed n => [base + 8, 5, n]
  | .rgb r g b => [base + 8, 2, r, g, b]

theorem Colour.sequence_eq (base : Nat) (bright : Bool) (c : Colour) :
    c.sequence base bright = Dotted.sequence (c.codes base bright) := by
  cases c with
  | named n => cases bright <;> rfl
  | indexed n => rfl
  | rgb r g b => rfl

/-- The codes of the sequences for parts: those of the last foreground colour, of the last
background colour, and of every effect once, by ascending code. -/
def codeGroups (ps : List Part) : List (List Nat) :=
  ((ps.filterMap Part.foreground?).getLast?.map
    (Colour.codes 30 (Part.brightForeground ∈ ps))).toList ++
  ((ps.filterMap Part.background?).getLast?.map
    (Colour.codes 40 (Part.brightBackground ∈ ps))).toList ++
  (attributeCodes.filter fun (_, code) => Part.attribute code ∈ ps).map fun (_, code) => [code]

theorem join_colour (base : Nat) (bright : Bool) (c : Option Colour) :
    (c.map (Colour.sequence base bright)).getD "" =
      String.join ((c.map (Colour.codes base bright)).toList.map sequence) := by
  cases c with
  | none => rfl
  | some c => simp [Colour.sequence_eq]

theorem escape_foldl_add (ps : List Part) :
    (ps.foldl Look.add {}).escape = String.join ((codeGroups ps).map sequence) := by
  have foreground := foldl_add_last Look.foreground Part.foreground?
    (by rintro l (_ | _ | _ | _ | _) <;> rfl) ps {}
  have background := foldl_add_last Look.background Part.background?
    (by rintro l (_ | _ | _ | _ | _) <;> rfl) ps {}
  have brightForeground := foldl_add_any Look.brightForeground .brightForeground
    (by rintro l (_ | _ | _ | _ | _) <;> rfl) ps {}
  have brightBackground := foldl_add_any Look.brightBackground .brightBackground
    (by rintro l (_ | _ | _ | _ | _) <;> rfl) ps {}
  have effect (code : Nat) := foldl_add_any (·.attributes.contains code) (.attribute code)
    (by rintro l (_ | _ | _ | _ | _) <;> simp [Look.add]) ps {}
  unfold Look.escape codeGroups
  simp only [foreground, background, brightForeground, brightBackground, effect, Option.or_none,
    Bool.or_false, List.contains_nil, join_colour, List.map_append, String.join_append,
    List.map_map]
  rfl

theorem look_eq {qs : List (List Char)} {ps : List Part} (denote : List.Forall₂ Denotes qs ps) :
    look qs = ps.foldl Look.add {} := by
  have names : qs.filterMap Part.ofName? = ps := by
    induction denote with
    | nil => rfl
    | cons first _ ih => rw [List.filterMap_cons, ofName?_eq_some_iff.mpr first, ih]
  rw [look, names]

/-! ### Single parts -/

/-- A brightness is one of a colour and nothing by itself. -/
def Part.IsBrightness (p : Part) : Prop := p = .brightForeground ∨ p = .brightBackground

/-- The part is known and gives a sequence by itself. -/
def Writes (cs : List Char) : Prop := ∃ p, Denotes cs p ∧ ¬p.IsBrightness

theorem sequence_ne_empty (codes : List Nat) : sequence codes ≠ "" := by
  simp [sequence, String.append_eq_empty_iff]

theorem join_sequences_eq_empty_iff {groups : List (List Nat)} :
    String.join (groups.map sequence) = "" ↔ groups = [] := by
  cases groups with
  | nil => simp
  | cons codes groups => simp [sequence_ne_empty]

theorem codeGroups_eq_nil_iff {cs : List Char} {p : Part} (denotes : Denotes cs p) :
    codeGroups [p] = [] ↔ p.IsBrightness := by
  cases denotes with
  | @effect name code mem =>
    have kept : (name, code) ∈ attributeCodes.filter fun (_, other) =>
        Part.attribute other ∈ [Part.attribute code] := List.mem_filter.mpr ⟨mem, by simp⟩
    refine iff_of_false (fun none => ?_) nofun
    rw [codeGroups, List.append_eq_nil_iff, List.map_eq_nil_iff] at none
    exact List.ne_nil_of_mem kept none.2
  | _ => simp [codeGroups, Part.foreground?, Part.background?, Part.IsBrightness]

theorem isEmpty_escape_look_iff {cs : List Char} :
    (look [cs]).escape.isEmpty = true ↔ ¬Writes cs := by
  rw [String.isEmpty_iff]
  cases read : Part.ofName? cs with
  | none =>
    have empty : look [cs] = {} := by
      rw [look, List.filterMap_cons_none read]
      rfl
    refine iff_of_true (by rw [empty]; rfl) ?_
    rintro ⟨p, denotes, -⟩
    rw [ofName?_eq_some_iff.mpr denotes] at read
    contradiction
  | some p =>
    have denotes := ofName?_eq_some_iff.mp read
    rw [look_eq (.cons denotes .nil), escape_foldl_add, join_sequences_eq_empty_iff,
      codeGroups_eq_nil_iff denotes]
    refine ⟨fun brightness writes => ?_, fun silent => ?_⟩
    · obtain ⟨p', denotes', other⟩ := writes
      rw [← ofName?_eq_some_iff, read] at denotes'
      exact other (Option.some.inj denotes' ▸ brightness)
    · exact not_not.mp fun other => silent ⟨p, denotes, other⟩

/-! ### Whole strings -/

theorem parse_eq {s : String} (nonempty : s ≠ "") (dotted : s.toList.head? ≠ some '\x1b') :
    parse s = match (parts s).find? fun part => (look [part]).escape.isEmpty with
      | some part => .error ⟨s, String.ofList part⟩
      | none => .ok (escape s) := by
  have noRaw : ¬(s.isEmpty || s.toList.head? == some '\x1b') = true := by
    rw [Bool.or_eq_true, String.isEmpty_iff, beq_iff_eq, not_or]
    exact ⟨nonempty, dotted⟩
  exact if_neg noRaw

theorem parse_eq_ok_iff {s text : String} (nonempty : s ≠ "")
    (dotted : s.toList.head? ≠ some '\x1b') :
    parse s = .ok text ↔ (∀ part ∈ parts s, Writes part) ∧ text = escape s := by
  have all : (parts s).find? (fun part => (look [part]).escape.isEmpty) = none ↔
      ∀ part ∈ parts s, Writes part := by
    simp only [List.find?_eq_none, isEmpty_escape_look_iff, not_not]
  rw [parse_eq nonempty dotted, ← all]
  cases found : (parts s).find? fun part => (look [part]).escape.isEmpty with
  | none => simp [eq_comm]
  | some part => simp

theorem parse_eq_error_iff {s : String} {e : InvalidStyle} (nonempty : s ≠ "")
    (dotted : s.toList.head? ≠ some '\x1b') :
    parse s = .error e ↔ ∃ before part after, parts s = before ++ part :: after ∧
      (∀ p ∈ before, Writes p) ∧ ¬Writes part ∧ e = ⟨s, String.ofList part⟩ := by
  have first (part : List Char) :
      (parts s).find? (fun part => (look [part]).escape.isEmpty) = some part ↔
        ∃ before after, parts s = before ++ part :: after ∧ (∀ p ∈ before, Writes p) ∧
          ¬Writes part := by
    rw [List.find?_eq_some_iff_append, isEmpty_escape_look_iff]
    simp only [Bool.not_eq_true', ← Bool.not_eq_true, isEmpty_escape_look_iff, not_not]
    tauto
  rw [parse_eq nonempty dotted]
  constructor
  · intro failed
    cases found : (parts s).find? fun part => (look [part]).escape.isEmpty with
    | none =>
      rw [found] at failed
      contradiction
    | some part =>
      obtain ⟨before, after, split, known, unknown⟩ := (first part).mp found
      rw [found] at failed
      cases failed
      exact ⟨before, part, after, split, known, unknown, rfl⟩
  · rintro ⟨before, part, after, split, known, unknown, rfl⟩
    rw [(first part).mpr ⟨before, after, split, known, unknown⟩]

/-- A dotted string is accepted just if every part of it is a colour or an effect, and otherwise
refused for the first part that is neither. What it is written as is told by all of its parts
together, of which a brightness may be one. -/
theorem parse_dotted {s : String} (nonempty : s ≠ "") (dotted : s.toList.head? ≠ some '\x1b') :
    (∀ text, parse s = .ok text ↔ (∀ part ∈ parts s, Writes part) ∧ text = escape s) ∧
    (∀ e, parse s = .error e ↔ ∃ before part after, parts s = before ++ part :: after ∧
      (∀ p ∈ before, Writes p) ∧ ¬Writes part ∧ e = ⟨s, String.ofList part⟩) ∧
    ∀ ps, List.Forall₂ Denotes (parts s) ps →
      escape s = String.join ((codeGroups ps).map sequence) := by
  refine ⟨fun text => parse_eq_ok_iff nonempty dotted, fun e => parse_eq_error_iff nonempty dotted,
    fun ps denote => ?_⟩
  rw [escape, look_eq denote, escape_foldl_add]

theorem parse_replaced_colour :
    let s := "208.on_#00fF00.bold.red"
    let ps := [.foreground (.indexed 208), .background (.rgb 0 255 0), .attribute 1,
      .foreground (.named 1)]
    s ≠ "" ∧ s.toList.head? ≠ some '\x1b' ∧ List.Forall₂ Denotes (parts s) ps ∧
    (∀ part ∈ parts s, Writes part) ∧
    parse s = .ok (String.join ((codeGroups ps).map sequence)) := by
  intro s ps
  have nonempty : s ≠ "" := by decide
  have dotted : s.toList.head? ≠ some '\x1b' := by decide
  have split : parts s = ["208".toList, "on_#00fF00".toList, "bold".toList, "red".toList] := by
    decide +kernel
  have denote : List.Forall₂ Denotes (parts s) ps := by
    rw [split]
    refine .cons ?_ (.cons ?_ (.cons ?_ (.cons ?_ .nil)))
    all_goals exact ofName?_eq_some_iff.mp (by decide +kernel)
  obtain ⟨accepted, -, written⟩ := parse_dotted nonempty dotted
  have ok : parse s = .ok (escape s) := by decide +kernel
  exact ⟨nonempty, dotted, denote, ((accepted _).mp ok).1, written ps denote ▸ ok⟩

/-- The brightness of a colour is a known part and would be written with it, and yet it is refused
as unknown. -/
theorem brightness_refused :
    let s := "red.bright"
    s ≠ "" ∧ s.toList.head? ≠ some '\x1b' ∧ (∀ part ∈ parts s, ∃ p, Denotes part p) ∧
    escape s = "\x1b[38;5;9m" ∧ parse s = .error ⟨s, "bright"⟩ := by
  refine ⟨by decide, by decide, ?_, by decide +kernel, by decide +kernel⟩
  have split : parts "red.bright" = ["red".toList, "bright".toList] := by decide +kernel
  rw [split]
  have red : Denotes "red".toList (.foreground (.named 1)) :=
    ofName?_eq_some_iff.mp (by decide +kernel)
  exact List.forall_mem_cons.mpr
    ⟨⟨_, red⟩, List.forall_mem_singleton.mpr ⟨_, .brightForeground⟩⟩

end StructuredLog.Dotted
