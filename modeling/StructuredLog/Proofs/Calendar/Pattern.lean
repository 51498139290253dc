import StructuredLog.Calendar.Directive
import StructuredLog.Calendar.Pattern
import StructuredLog.Proofs.Text.Run

/-!
What custom date patterns mean. A format is a row of letter runs, quoted texts, escaped characters
and plain ones, and each of them stands for items. The directives that a format is turned into are
read as just these items; only a format that has a percent sign outside quotes and escapes means
nothing of the kind, and is left as it is.
-/

namespace StructuredLog.Calendar

/-- Letters whose runs stand for directives. -/
def letters : List Char := ['y', 'M', 'd', 'H', 'h', 'm', 's', 'f', 'F', 't', 'z', 'K']

/-- What a run of some length of a letter stands for. -/
def runItem (c : Char) (n : Nat) : Item :=
  match c with
  | 'y' => if 3 ≤ n then .number .year .zero else .number .yearOfCentury .zero
  | 'M' => if n = 1 then .number .month .none else if n = 2 then .number .month .zero
      else if n = 3 then .monthName false else .monthName true
  | 'd' => if n = 1 then .number .day .none else if n = 2 then .number .day .zero
      else if n = 3 then .weekdayName false else .weekdayName true
  | 'H' => .number .hour (if n = 1 then .none else .zero)
  | 'h' => .number .hour12 (if n = 1 then .none else .zero)
  | 'm' => .number .minute (if n = 1 then .none else .zero)
  | 's' => .number .second (if n = 1 then .none else .zero)
  | 't' => .halfDay true
  | 'z' | 'K' => .offset .colonMinutes
  | _ => .fixedFraction false (if n ≤ 3 then 3 else if n ≤ 6 then 6 else 9)

/-- The items of a format, from left to right. -/
inductive Means : List Char → List Item → Prop
  | nil : Means [] []
  | run {c n rest is} :
      c ∈ letters → rest.head? ≠ some c → Means rest is →
      Means (List.replicate (n + 1) c ++ rest) (runItem c (n + 1) :: is)
  | quoted {q body rest is} :
      isQuote q = true → q ∉ body → Means rest is →
      Means (q :: (body ++ q :: rest)) (body.map .literal ++ is)
  /-- A quote that is not closed runs to the end. -/
  | unclosed {q body} : isQuote q = true → q ∉ body → Means (q :: body) (body.map .literal)
  | escaped {c rest is} : Means rest is → Means ('\\' :: c :: rest) (.literal c :: is)
  /-- A backslash with nothing behind it escapes nothing. -/
  | dangling : Means ['\\'] []
  | plain {c rest is} :
      c ∉ letters → isQuote c = false → c ≠ '\\' → c ≠ '%' → Means rest is →
      Means (c :: rest) (.literal c :: is)

/-- Quotes are closed again, and a character follows each backslash outside them. -/
inductive Closed : List Char → Prop
  | nil : Closed []
  | plain {c cs} : isQuote c = false → c ≠ '\\' → Closed cs → Closed (c :: cs)
  | quoted {q body cs} : isQuote q = true → q ∉ body → Closed cs → Closed (q :: (body ++ q :: cs))
  | escaped {c cs} : Closed cs → Closed ('\\' :: c :: cs)

/-- A percent sign stands outside quotes and escapes. -/
def BarePercent (cs : List Char) : Prop :=
  ∃ before after, cs = before ++ '%' :: after ∧ Closed before

/-! ### Reading -/

section Read

theorem items?_directive (body : List Char) {item : Item}
    (reads : ∀ rest, directive? (body ++ rest) = some ([item], rest)) (rest : List Char) :
    items? ('%' :: (body ++ rest)) = (items? rest).map (item :: ·) := by
  rw [items?, if_pos rfl]
  split
  · next is rest' eq =>
    rw [reads] at eq
    cases eq
    rfl
  · next eq =>
    rw [reads] at eq
    contradiction

theorem items?_literalText (c : Char) (rest : List Char) :
    items? (literalText c ++ rest) = (items? rest).map (.literal c :: ·) := by
  unfold literalText
  split
  · next percent =>
    subst percent
    exact items?_directive ['%'] (fun _ => rfl) rest
  · next other => rw [List.singleton_append, items?, if_neg other]

theorem items?_flatMap_literalText {rest : List Char} {is : List Item} (body : List Char)
    (read : items? rest = some is) :
    items? (body.flatMap literalText ++ rest) = some (body.map .literal ++ is) := by
  induction body with
  | nil => exact read
  | cons c body ih =>
    rw [List.flatMap_cons, List.append_assoc, items?_literalText, ih, Option.map_some,
      List.map_cons, List.cons_append]

/-- The directive of a run is read in one, whatever follows. -/
theorem exists_runDirective {c : Char} (letter : c ∈ letters) (n : Nat) :
    ∃ body, runDirective? c n = some ('%' :: body) ∧
      ∀ rest, directive? (body ++ rest) = some ([runItem c n], rest) := by
  simp only [letters, List.mem_cons, List.not_mem_nil, or_false] at letter
  obtain rfl | rfl | rfl | rfl | rfl | rfl | rfl | rfl | rfl | rfl | rfl | rfl := letter
  all_goals
    simp only [runDirective?, runItem]
    try split_ifs
  all_goals exact ⟨_, rfl, fun _ => rfl⟩

theorem runDirective?_of_notMem {c : Char} (other : c ∉ letters) (n : Nat) :
    runDirective? c n = none := by
  simp only [letters, List.mem_cons, not_or] at other
  simp [runDirective?, other]

end Read

/-! ### Compiling -/

section Compile

variable {c q : Char} {cs body rest : List Char}

theorem plain_of_mem_letters (letter : c ∈ letters) :
    isQuote c = false ∧ c ≠ '\\' ∧ c ≠ '%' := by
  simp only [letters, List.mem_cons, List.not_mem_nil, or_false] at letter
  obtain rfl | rfl | rfl | rfl | rfl | rfl | rfl | rfl | rfl | rfl | rfl | rfl := letter
  all_goals exact ⟨rfl, by decide, by decide⟩

theorem compile_run {n : Nat} {directive : List Char} (letter : c ∈ letters)
    (known : runDirective? c (n + 1) = some directive) (ends : rest.head? ≠ some c) :
    compile (List.replicate (n + 1) c ++ rest) = directive ++ compile rest := by
  obtain ⟨noQuote, noEscape, -⟩ := plain_of_mem_letters letter
  have all : ∀ x ∈ List.replicate n c, (x == c) = true := by simp
  have stop : ∀ x ∈ rest.head?, (x == c) = false := by
    intro x first
    rw [beq_eq_false_iff_ne]
    rintro rfl
    exact ends first
  rw [List.replicate_succ, List.cons_append, compile.eq_def]
  dsimp only
  rw [noQuote, if_neg Bool.false_ne_true, if_neg noEscape, Text.takeWhile_append_stop all stop,
    Text.dropWhile_append_stop all stop,
    List.length_replicate, known]

theorem bne_of_notMem (free : q ∉ body) : ∀ x ∈ body, (x != q) = true := by
  intro x mem
  rw [bne_iff_ne]
  rintro rfl
  exact free mem

theorem compile_quoted (quote : isQuote q = true) (free : q ∉ body) :
    compile (q :: (body ++ q :: rest)) = body.flatMap literalText ++ compile rest := by
  have stop : ∀ x ∈ (q :: rest).head?, (x != q) = false := by simp
  rw [compile.eq_def]
  dsimp only
  rw [if_pos quote, Text.takeWhile_append_stop (bne_of_notMem free) stop,
    Text.dropWhile_append_stop (bne_of_notMem free) stop, List.drop_one, List.tail_cons]

theorem compile_unclosed (quote : isQuote q = true) (free : q ∉ body) :
    compile (q :: body) = body.flatMap literalText := by
  rw [compile.eq_def]
  dsimp only
  rw [if_pos quote, List.takeWhile_eq_self_iff.mpr (bne_of_notMem free),
    List.dropWhile_eq_nil_iff.mpr (bne_of_notMem free), List.drop_nil, compile, List.append_nil]

theorem compile_escaped : compile ('\\' :: c :: rest) = literalText c ++ compile rest := by
  rw [compile.eq_def]
  rfl

theorem compile_plain (other : c ∉ letters) (noQuote : isQuote c = false) (noEscape : c ≠ '\\') :
    compile (c :: rest) = literalText c ++ compile rest := by
  rw [compile.eq_def]
  dsimp only
  rw [noQuote, if_neg Bool.false_ne_true, if_neg noEscape, runDirective?_of_notMem other]

end Compile

theorem Means.items?_compile {cs : List Char} {is : List Item} (means : Means cs is) :
    items? (compile cs) = some is := by
  induction means with
  | nil => rw [compile, items?]
  | @run c n rest is letter ends _ ih =>
    obtain ⟨body, known, reads⟩ := exists_runDirective letter (n + 1)
    rw [compile_run letter known ends, List.cons_append, items?_directive body reads, ih,
      Option.map_some]
  | quoted quote free _ ih =>
    rw [compile_quoted quote free, items?_flatMap_literalText _ ih]
  | @unclosed q body quote free =>
    have read := items?_flatMap_literalText body items?.eq_1
    rw [List.append_nil, List.append_nil] at read
    rw [compile_unclosed quote free, read]
  | escaped _ ih => rw [compile_escaped, items?_literalText, ih, Option.map_some]
  | dangling =>
    rw [compile.eq_def]
    exact items?.eq_1
  | plain other noQuote noEscape _ _ ih =>
    rw [compile_plain other noQuote noEscape, items?_literalText, ih, Option.map_some]

/-! ### Percent signs -/

section Percent

variable {c q : Char} {cs body rest : List Char} {is : List Item}

theorem hasBarePercent_plain (noQuote : isQuote c = false) (noEscape : c ≠ '\\') :
    hasBarePercent none (c :: rest) = (c == '%' || hasBarePercent none rest) := by
  rw [hasBarePercent.eq_def]
  simp only [noQuote, noEscape, Bool.false_eq_true, if_false]

theorem hasBarePercent_escaped :
    hasBarePercent none ('\\' :: c :: rest) = hasBarePercent none rest := by
  simp [hasBarePercent, isQuote]

/-- Nothing counts until the quote is closed. -/
theorem hasBarePercent_some (free : q ∉ body) :
    hasBarePercent (some q) (body ++ rest) = hasBarePercent (some q) rest := by
  induction body with
  | nil => rfl
  | cons c body ih =>
    rw [List.mem_cons, not_or] at free
    rw [List.cons_append, hasBarePercent, if_neg (Ne.symm free.1), ih free.2]

theorem hasBarePercent_unclosed (quote : isQuote q = true) (free : q ∉ body) :
    hasBarePercent none (q :: body) = false := by
  have inside : hasBarePercent (some q) (body ++ []) = hasBarePercent (some q) [] :=
    hasBarePercent_some free
  rw [List.append_nil] at inside
  rw [hasBarePercent.eq_def]
  dsimp only
  rw [if_pos quote, inside, hasBarePercent]

theorem hasBarePercent_quoted (quote : isQuote q = true) (free : q ∉ body) :
    hasBarePercent none (q :: (body ++ q :: rest)) = hasBarePercent none rest := by
  rw [hasBarePercent.eq_def]
  dsimp only
  rw [if_pos quote, hasBarePercent_some free, hasBarePercent, if_pos rfl]

theorem Closed.hasBarePercent (closed : Closed cs) :
    hasBarePercent none (cs ++ '%' :: rest) = true := by
  induction closed with
  | nil => exact hasBarePercent_plain rfl (by decide)
  | plain noQuote noEscape _ ih =>
    rw [List.cons_append, hasBarePercent_plain noQuote noEscape, ih, Bool.or_true]
  | quoted quote free _ ih =>
    rw [List.cons_append, List.append_assoc, List.cons_append, hasBarePercent_quoted quote free, ih]
  | escaped _ ih => rw [List.cons_append, List.cons_append, hasBarePercent_escaped, ih]

theorem Means.hasBarePercent (means : Means cs is) : hasBarePercent none cs = false := by
  induction means with
  | nil => rw [Calendar.hasBarePercent]
  | @run c n rest is letter _ _ ih =>
    obtain ⟨noQuote, noEscape, noPercent⟩ := plain_of_mem_letters letter
    generalize n + 1 = length
    induction length with
    | zero => exact ih
    | succ length ih' =>
      rw [List.replicate_succ, List.cons_append, hasBarePercent_plain noQuote noEscape, ih',
        Bool.or_false, beq_eq_false_iff_ne]
      exact noPercent
  | quoted quote free _ ih => rw [hasBarePercent_quoted quote free, ih]
  | unclosed quote free => exact hasBarePercent_unclosed quote free
  | escaped _ ih => rw [hasBarePercent_escaped, ih]
  | dangling => rfl
  | plain _ noQuote noEscape noPercent _ ih =>
    rw [hasBarePercent_plain noQuote noEscape, ih, Bool.or_false, beq_eq_false_iff_ne]
    exact noPercent

theorem Closed.append (closed : Closed cs) (closed' : Closed rest) : Closed (cs ++ rest) := by
  induction closed with
  | nil => exact closed'
  | plain noQuote noEscape _ ih => exact .plain noQuote noEscape ih
  | quoted quote free _ ih =>
    rw [List.cons_append, List.append_assoc, List.cons_append]
    exact .quoted quote free ih
  | escaped _ ih => exact .escaped ih

theorem BarePercent.append (closed : Closed cs) (bare : BarePercent rest) :
    BarePercent (cs ++ rest) := by
  obtain ⟨before, after, rfl, closed'⟩ := bare
  exact ⟨cs ++ before, after, (List.append_assoc _ _ _).symm, closed.append closed'⟩

theorem closed_replicate (letter : c ∈ letters) (n : Nat) : Closed (List.replicate n c) := by
  obtain ⟨noQuote, noEscape, -⟩ := plain_of_mem_letters letter
  induction n with
  | zero => exact .nil
  | succ n ih => exact .plain noQuote noEscape ih

end Percent

/-- A format means something, or has a percent sign that is taken for a directive's. -/
theorem means_or_barePercent (cs : List Char) : (∃ is, Means cs is) ∨ BarePercent cs := by
  induction n : cs.length using Nat.strongRecOn generalizing cs with
  | _ n ih =>
  subst n
  -- Behind a front in which all is closed, the rest decides.
  have further (front : List Char) {rest : List Char} (split : cs = front ++ rest)
      (progress : front ≠ []) (closed : Closed front)
      (extend : ∀ is, Means rest is → ∃ is', Means cs is') :
      (∃ is, Means cs is) ∨ BarePercent cs := by
    have shorter : rest.length < cs.length := by
      have pos := List.length_pos_iff.mpr progress
      rw [split, List.length_append]
      omega
    obtain ⟨is, means⟩ | bare := ih _ shorter rest rfl
    · exact .inl (extend is means)
    · exact .inr (split ▸ bare.append closed)
  cases cs with
  | nil => exact .inl ⟨_, .nil⟩
  | cons c rest =>
    by_cases quote : isQuote c = true
    · obtain ⟨body, r, rfl, inside, stop⟩ := Text.exists_span (· != c) rest
      have free : c ∉ body := fun mem => by simpa using inside c mem
      cases r with
      | nil =>
        rw [List.append_nil]
        exact .inl ⟨_, .unclosed quote free⟩
      | cons q rest =>
        obtain rfl : q = c := by simpa using stop q rfl
        exact further (q :: (body ++ [q])) (by simp) nofun (.quoted quote free .nil)
          fun is means => ⟨_, .quoted quote free means⟩
    by_cases escape : c = '\\'
    · subst escape
      cases rest with
      | nil => exact .inl ⟨_, .dangling⟩
      | cons d rest =>
        exact further ['\\', d] rfl nofun (.escaped .nil)
          fun is means => ⟨_, .escaped means⟩
    by_cases letter : c ∈ letters
    · obtain ⟨u, r, rfl, same, stop⟩ := Text.exists_span (· == c) rest
      have run : c :: (u ++ r) = List.replicate (u.length + 1) c ++ r := by
        have all : u = List.replicate u.length c :=
          List.eq_replicate_iff.mpr ⟨rfl, fun x mem => by simpa using same x mem⟩
        rw [List.replicate_succ, ← all, List.cons_append]
      have ends : r.head? ≠ some c := fun first => by simpa using stop c first
      refine further _ run nofun (closed_replicate letter _) fun is means => ?_
      rw [run]
      exact ⟨_, .run letter ends means⟩
    by_cases percent : c = '%'
    · exact .inr ⟨[], rest, by rw [percent, List.nil_append], .nil⟩
    · have noQuote : isQuote c = false := by simpa using quote
      exact further [c] rfl nofun (.plain noQuote escape .nil)
        fun is means => ⟨_, .plain letter noQuote escape percent means⟩

/-- A format with a percent sign outside quotes and escapes is left as it is. Every other format has
one meaning, and its directives are read as just these items. -/
theorem items_of_pattern (format : String) :
    (BarePercent format.toList ∧ pattern format = format) ∨
    (¬BarePercent format.toList ∧
      ∃ is, items? (pattern format).toList = some is ∧
        ∀ is', Means format.toList is' ↔ is' = is) := by
  have bare (found : BarePercent format.toList) : hasBarePercent none format.toList = true := by
    obtain ⟨before, after, split, closed⟩ := found
    rw [split, closed.hasBarePercent]
  obtain ⟨is, means⟩ | found := means_or_barePercent format.toList
  · right
    have noBare : ¬BarePercent format.toList := fun found => by
      have := bare found
      rw [means.hasBarePercent] at this
      contradiction
    rw [pattern, means.hasBarePercent, if_neg Bool.false_ne_true, String.toList_ofList]
    refine ⟨noBare, is, means.items?_compile, fun is' => ⟨fun means' => ?_, fun eq => eq ▸ means⟩⟩
    exact Option.some_inj.mp (means'.items?_compile.symm.trans means.items?_compile)
  · exact .inl ⟨found, by rw [pattern, if_pos (bare found)]⟩

end StructuredLog.Calendar
