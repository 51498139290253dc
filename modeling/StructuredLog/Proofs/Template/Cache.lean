import Mathlib
import StructuredLog.Template.Cache

/-!
Runs of the template cache. A parse gives the template of its text whatever was parsed before, and
the cache never outgrows its capacity. A template that is held stays the same object until the cache
is emptied, which a text that is not held does when the cache is full.
-/

namespace StructuredLog

/-- Some placeholder has an argument number, and some has none. -/
def Template.Mixes (t : Template) : Prop :=
  (∃ p ∈ t.placeholders, p.position?.isSome = true) ∧ ∃ p ∈ t.placeholders, p.position? = none

instance (t : Template) : Decidable t.Mixes := by
  unfold Template.Mixes
  infer_instance

theorem Template.isMixed_iff (t : Template) : t.isMixed = true ↔ t.Mixes := by
  unfold Template.isMixed Template.binding Template.Mixes
  by_cases bare : t.placeholders = []
  · simp [bare]
  · by_cases all : t.placeholders.all (·.position?.isSome) = true
    · have none : ¬∃ p ∈ t.placeholders, p.position? = none := by
        rintro ⟨p, mem, eq⟩
        have some := List.all_eq_true.mp all p mem
        rw [eq] at some
        contradiction
      simp [bare, all, none]
    · have none : ∃ p ∈ t.placeholders, p.position? = none := by
        simpa using all
      simp [bare, all, none]

namespace TemplateCache

/-! ### One parse -/

def next (c : TemplateCache) (text : String) : TemplateCache := (c.parse text).1

def answer (c : TemplateCache) (text : String) : SharedTemplate := (c.parse text).2.1

def report (c : TemplateCache) (text : String) : List Diagnostic := (c.parse text).2.2

/-- A text that could be held is not. -/
def Misses (c : TemplateCache) (text : String) : Prop :=
  text.length ≤ maxTextLength ∧ c.find? text = none

instance (c : TemplateCache) (text : String) : Decidable (c.Misses text) :=
  inferInstanceAs (Decidable (_ ∧ _))

/-- What was held before a parse, of which there was some, is no longer held after it. -/
def Empties (c : TemplateCache) (text : String) : Prop :=
  c.entries ≠ [] ∧ ∀ t ∈ c.entries, t ∉ (c.next text).entries

section Parse

variable {c : TemplateCache} {text : String}

theorem parse_of_long (long : maxTextLength < text.length) :
    c.parse text = ({ c with created := c.created + 1 }, ⟨c.created, .parse text⟩,
      (Template.parse text).diagnostics) := by
  rw [parse, if_pos long]
  rfl

theorem parse_of_held {t : SharedTemplate} (short : text.length ≤ maxTextLength)
    (held : c.find? text = some t) : c.parse text = (c, t, []) := by
  rw [parse, if_neg (Nat.not_lt.mpr short), held]

theorem parse_of_misses (misses : c.Misses text) :
    c.parse text =
      (⟨⟨c.created, .parse text⟩ :: (if c.entries.length < capacity then c.entries else []),
          c.created + 1⟩,
        ⟨c.created, .parse text⟩, (Template.parse text).diagnostics) := by
  rw [parse, if_neg (Nat.not_lt.mpr misses.1), misses.2]
  rfl

theorem long_or_held_or_misses (c : TemplateCache) (text : String) :
    maxTextLength < text.length ∨
      (text.length ≤ maxTextLength ∧ ∃ t, c.find? text = some t) ∨ c.Misses text := by
  by_cases long : maxTextLength < text.length
  · exact .inl long
  · have short := Nat.le_of_not_lt long
    cases held : c.find? text with
    | none => exact .inr (.inr ⟨short, held⟩)
    | some t => exact .inr (.inl ⟨short, t, rfl⟩)

theorem mem_of_find? {t : SharedTemplate} (held : c.find? text = some t) :
    t ∈ c.entries ∧ t.template.text = text := by
  refine ⟨List.mem_of_find?_eq_some held, ?_⟩
  simpa using List.find?_some held

theorem find?_eq_none_iff : c.find? text = none ↔ text ∉ c.entries.map (·.template.text) := by
  rw [find?, List.find?_eq_none]
  constructor
  · intro other mem
    obtain ⟨t, inEntries, rfl⟩ := List.mem_map.mp mem
    exact other t inEntries (beq_self_eq_true _)
  · intro absent t inEntries eq
    exact absent (List.mem_map.mpr ⟨t, inEntries, beq_iff_eq.mp eq⟩)

end Parse

/-! ### What every run keeps -/

/-- Each text is held once, with its own parse, and all objects have been created before. -/
structure Sound (c : TemplateCache) : Prop where
  length_le : c.entries.length ≤ capacity
  nodup : (c.entries.map (·.template.text)).Nodup
  text_le : ∀ t ∈ c.entries, t.template.text.length ≤ maxTextLength
  parsed : ∀ t ∈ c.entries, t.template = .parse t.template.text
  serial_lt : ∀ t ∈ c.entries, t.serial < c.created

/-- No object in the cache, or created from here on, is older than some number. -/
structure Since (n : Nat) (c : TemplateCache) : Prop where
  created : n ≤ c.created
  serial : ∀ t ∈ c.entries, n ≤ t.serial

section Step

variable {c : TemplateCache} {text : String}

theorem Sound.empty (created : Nat) : Sound ⟨[], created⟩ where
  length_le := Nat.zero_le _
  nodup := List.nodup_nil
  text_le := List.forall_mem_nil _
  parsed := List.forall_mem_nil _
  serial_lt := List.forall_mem_nil _

theorem Sound.mono_created (sound : c.Sound) : Sound { c with created := c.created + 1 } where
  length_le := sound.length_le
  nodup := sound.nodup
  text_le := sound.text_le
  parsed := sound.parsed
  serial_lt t mem := Nat.lt_succ_of_lt (sound.serial_lt t mem)

theorem Sound.cons (sound : c.Sound) (misses : c.Misses text)
    (room : c.entries.length < capacity) :
    Sound ⟨⟨c.created, .parse text⟩ :: c.entries, c.created + 1⟩ where
  length_le := room
  nodup := List.nodup_cons.mpr ⟨find?_eq_none_iff.mp misses.2, sound.nodup⟩
  text_le := List.forall_mem_cons.mpr ⟨misses.1, sound.text_le⟩
  parsed := List.forall_mem_cons.mpr ⟨rfl, sound.parsed⟩
  serial_lt := List.forall_mem_cons.mpr ⟨Nat.lt_succ_self _, sound.mono_created.serial_lt⟩

theorem Sound.next (sound : c.Sound) (text : String) : (c.next text).Sound := by
  unfold TemplateCache.next
  obtain long | ⟨short, t, held⟩ | misses := c.long_or_held_or_misses text
  · rw [parse_of_long long]
    exact sound.mono_created
  · rw [parse_of_held short held]
    exact sound
  · rw [parse_of_misses misses]
    split
    · next room => exact sound.cons misses room
    · -- A full cache is emptied, and the new template is the first of an empty one.
      have first : Misses ⟨[], c.created⟩ text := ⟨misses.1, rfl⟩
      exact (Sound.empty c.created).cons first (Nat.zero_lt_succ 999)

theorem Sound.template_answer (sound : c.Sound) (text : String) :
    (c.answer text).template = .parse text := by
  unfold answer
  obtain long | ⟨short, t, held⟩ | misses := c.long_or_held_or_misses text
  · rw [parse_of_long long]
  · obtain ⟨mem, rfl⟩ := mem_of_find? held
    rw [parse_of_held short held]
    exact sound.parsed t mem
  · rw [parse_of_misses misses]

theorem Sound.serial_answer_lt (sound : c.Sound) (text : String) :
    (c.answer text).serial < (c.next text).created := by
  unfold answer TemplateCache.next
  obtain long | ⟨short, t, held⟩ | misses := c.long_or_held_or_misses text
  · rw [parse_of_long long]
    exact Nat.lt_succ_self _
  · rw [parse_of_held short held]
    exact sound.serial_lt t (mem_of_find? held).1
  · rw [parse_of_misses misses]
    exact Nat.lt_succ_self _

theorem answer_mem_next (short : text.length ≤ maxTextLength) :
    c.answer text ∈ (c.next text).entries := by
  unfold answer next
  obtain long | ⟨-, t, held⟩ | misses := c.long_or_held_or_misses text
  · exact absurd short (Nat.not_le.mpr long)
  · rw [parse_of_held short held]
    exact (mem_of_find? held).1
  · rw [parse_of_misses misses]
    exact List.mem_cons_self

theorem Sound.answer_of_mem (sound : c.Sound) {t : SharedTemplate}
    (short : text.length ≤ maxTextLength) (mem : t ∈ c.entries)
    (named : t.template.text = text) : c.answer text = t := by
  obtain ⟨t', held⟩ : ∃ t', c.find? text = some t' := by
    rw [← Option.isSome_iff_exists, find?, List.find?_isSome]
    exact ⟨t, mem, by simpa using named⟩
  rw [answer, parse_of_held short held]
  obtain ⟨mem', named'⟩ := mem_of_find? held
  exact List.inj_on_of_nodup_map sound.nodup mem' mem (named'.trans named.symm)

theorem Since.next {n : Nat} (since : Since n c) (text : String) : Since n (c.next text) := by
  unfold TemplateCache.next
  obtain long | ⟨short, t, held⟩ | misses := c.long_or_held_or_misses text
  · rw [parse_of_long long]
    exact ⟨Nat.le_succ_of_le since.created, since.serial⟩
  · rw [parse_of_held short held]
    exact since
  · rw [parse_of_misses misses]
    refine ⟨Nat.le_succ_of_le since.created, List.forall_mem_cons.mpr ⟨since.created, ?_⟩⟩
    split
    · exact since.serial
    · exact List.forall_mem_nil _

theorem Since.serial_answer {n : Nat} (since : Since n c) (text : String) :
    n ≤ (c.answer text).serial := by
  unfold answer
  obtain long | ⟨short, t, held⟩ | misses := c.long_or_held_or_misses text
  · rw [parse_of_long long]
    exact since.created
  · rw [parse_of_held short held]
    exact since.serial t (mem_of_find? held).1
  · rw [parse_of_misses misses]
    exact since.created

theorem created_le_next (c : TemplateCache) (text : String) :
    c.created ≤ (c.next text).created := by
  unfold next
  obtain long | ⟨short, t, held⟩ | misses := c.long_or_held_or_misses text
  · rw [parse_of_long long]
    exact Nat.le_succ _
  · rw [parse_of_held short held]
  · rw [parse_of_misses misses]
    exact Nat.le_succ _

/-! ### Emptying -/

theorem entries_next_of_full (misses : c.Misses text) (full : c.entries.length = capacity) :
    (c.next text).entries = [c.answer text] := by
  rw [next, answer, parse_of_misses misses, if_neg (by omega)]

/-- Only a text that is not held makes a full cache drop anything. -/
theorem mem_next_of_mem (sound : c.Sound) (kept : ¬(c.Misses text ∧ c.entries.length = capacity))
    {t : SharedTemplate} (mem : t ∈ c.entries) : t ∈ (c.next text).entries := by
  unfold next
  obtain long | ⟨short, t, held⟩ | misses := c.long_or_held_or_misses text
  · rw [parse_of_long long]
    exact mem
  · rw [parse_of_held short held]
    exact mem
  · have room : c.entries.length < capacity :=
      lt_of_le_of_ne sound.length_le fun full => kept ⟨misses, full⟩
    rw [parse_of_misses misses, if_pos room]
    exact List.mem_cons_of_mem _ mem

theorem serial_answer_of_misses (misses : c.Misses text) :
    (c.answer text).serial = c.created := by
  rw [answer, parse_of_misses misses]

theorem Sound.empties_iff (sound : c.Sound) :
    c.Empties text ↔ c.Misses text ∧ c.entries.length = capacity := by
  constructor
  · rintro ⟨nonempty, dropped⟩
    by_contra kept
    obtain ⟨t, mem⟩ := List.exists_mem_of_ne_nil _ nonempty
    exact dropped t mem (mem_next_of_mem sound kept mem)
  · rintro ⟨misses, full⟩
    refine ⟨fun nil => by simp [nil, capacity] at full, fun t mem kept => ?_⟩
    rw [entries_next_of_full misses full, List.mem_singleton] at kept
    have older := sound.serial_lt t mem
    rw [kept, serial_answer_of_misses misses] at older
    exact Nat.lt_irrefl _ older

end Step

/-! ### Runs -/

def run (c : TemplateCache) (texts : List String) : TemplateCache := texts.foldl next c

@[simp] theorem run_nil (c : TemplateCache) : c.run [] = c := rfl

theorem run_append (c : TemplateCache) (texts texts' : List String) :
    c.run (texts ++ texts') = (c.run texts).run texts' := List.foldl_append

theorem run_cons (c : TemplateCache) (text : String) (texts : List String) :
    c.run (text :: texts) = (c.next text).run texts := rfl

section Run

variable {c : TemplateCache}

theorem Sound.run (sound : c.Sound) (texts : List String) : (c.run texts).Sound := by
  induction texts generalizing c with
  | nil => exact sound
  | cons text texts ih => exact ih (sound.next text)

theorem Since.run {n : Nat} (since : Since n c) (texts : List String) :
    Since n (c.run texts) := by
  induction texts generalizing c with
  | nil => exact since
  | cons text texts ih => exact ih (since.next text)

theorem created_le_run (c : TemplateCache) (texts : List String) :
    c.created ≤ (c.run texts).created := by
  induction texts generalizing c with
  | nil => exact Nat.le_refl _
  | cons text texts ih => exact Nat.le_trans (c.created_le_next text) (ih _)

/-- What is held stays held as long as no parse empties the cache. -/
theorem Sound.mem_run (sound : c.Sound) {t : SharedTemplate} (mem : t ∈ c.entries)
    {texts : List String}
    (kept : ∀ earlier text later, texts = earlier ++ text :: later →
      ¬(c.run earlier).Empties text) : t ∈ (c.run texts).entries := by
  induction texts generalizing c with
  | nil => exact mem
  | cons text texts ih =>
    have held : t ∈ (c.next text).entries := by
      apply mem_next_of_mem sound _ mem
      rw [← sound.empties_iff]
      exact kept [] text texts rfl
    apply ih (sound.next text) held
    intro earlier text' later eq
    exact kept (text :: earlier) text' later (congrArg (text :: ·) eq)

/-- After the cache was emptied, all that it holds and gives is younger than what came before. -/
theorem Empties.since (sound : c.Sound) {text : String} (empties : c.Empties text) :
    Since c.created (c.next text) := by
  obtain ⟨misses, full⟩ := sound.empties_iff.mp empties
  refine ⟨c.created_le_next text, ?_⟩
  rw [entries_next_of_full misses full, List.forall_mem_singleton,
    serial_answer_of_misses misses]

/-- Of two parses of a text, the second gives the object of the first exactly if the cache was not
emptied since. -/
theorem Sound.serial_eq_iff (sound : c.Sound) {text : String}
    (short : text.length ≤ maxTextLength) (between : List String) :
    (((c.next text).run between).answer text).serial = (c.answer text).serial ↔
      ∀ earlier s later, between ++ [text] = earlier ++ s :: later →
        ¬((c.next text).run earlier).Empties s := by
  have sound' := sound.next text
  constructor
  · intro same earlier s later eq empties
    have since := empties.since (sound'.run earlier)
    have older : (c.answer text).serial < ((c.next text).run earlier).created :=
      Nat.lt_of_lt_of_le (sound.serial_answer_lt text) (created_le_run _ _)
    have younger : ((c.next text).run earlier).created ≤
        (((c.next text).run between).answer text).serial := by
      obtain rfl | ⟨later, last, rfl⟩ := List.eq_nil_or_concat later
      · -- The second parse is the one that emptied the cache.
        obtain ⟨rfl, last⟩ := List.append_inj' eq rfl
        cases last
        obtain ⟨misses, -⟩ := (sound'.run between).empties_iff.mp empties
        exact Nat.le_of_eq (serial_answer_of_misses misses).symm
      · rw [List.concat_eq_append, ← List.cons_append, ← List.append_assoc] at eq
        obtain ⟨rfl, -⟩ := List.append_inj' eq rfl
        rw [run_append, run_cons]
        exact (since.run later).serial_answer text
    omega
  · intro kept
    have held : c.answer text ∈ ((c.next text).run between).entries := by
      apply sound'.mem_run (answer_mem_next short)
      intro earlier s later eq
      apply kept earlier s (later ++ [text])
      rw [eq, List.append_assoc, List.cons_append]
    have named : (c.answer text).template.text = text := by
      rw [sound.template_answer]
      rfl
    rw [(sound'.run between).answer_of_mem short held named]

theorem serial_ne_of_long {text : String} (long : maxTextLength < text.length)
    {t : SharedTemplate} (older : t.serial < c.created) :
    t.serial ≠ (c.answer text).serial := by
  rw [answer, parse_of_long long]
  exact Nat.ne_of_lt older

end Run

theorem message_report (c : TemplateCache) (text : String) :
    (c.report text).map Diagnostic.message =
      if (maxTextLength < text.length ∨ c.Misses text) ∧ (Template.parse text).Mixes then
        ["Message template is malformed: " ++ text]
      else [] := by
  have parsed : ((Template.parse text).diagnostics).map Diagnostic.message =
      if (Template.parse text).Mixes then ["Message template is malformed: " ++ text] else [] := by
    simp only [Template.diagnostics, Template.isMixed_iff]
    split <;> rfl
  unfold report
  obtain long | ⟨short, t, held⟩ | misses := c.long_or_held_or_misses text
  · rw [parse_of_long long, parsed]
    simp only [long, true_or, true_and]
  · have given : ¬(maxTextLength < text.length ∨ c.Misses text) := by
      rintro (long | misses)
      · omega
      · simp [misses.2] at held
    rw [parse_of_held short held]
    simp only [given, false_and, if_false, List.map_nil]
  · rw [parse_of_misses misses, parsed]
    simp only [misses, or_true, true_and]

/-- A parse after any run that began with the empty cache. It gives the parse of its text. The cache
holds no more than its capacity, each text once with its own parse. A text that is too long gives a
new object and leaves the cache alone. Another text gives the same object again until the cache is
emptied, which is what a text that is not held does to a full cache. Mixed templates are reported by
the parses that the cache does not answer. -/
theorem parse_after_run (before : List String) (text : String) :
    let c := run {} before
    (c.answer text).template = .parse text ∧
    (c.entries.length ≤ capacity ∧ (c.entries.map (·.template.text)).Nodup ∧
      ∀ t ∈ c.entries, t.template.text.length ≤ maxTextLength ∧
        t.template = .parse t.template.text) ∧
    (maxTextLength < text.length →
      (c.next text).entries = c.entries ∧
      (∀ t ∈ c.entries, t.serial ≠ (c.answer text).serial) ∧
      ∀ earlier s later, before = earlier ++ s :: later →
        ((run {} earlier).answer s).serial ≠ (c.answer text).serial) ∧
    (text.length ≤ maxTextLength → ∀ between,
      ((run {} (before ++ text :: between)).answer text).serial = (c.answer text).serial ↔
        ∀ earlier s later, between ++ [text] = earlier ++ s :: later →
          ¬(run {} (before ++ text :: earlier)).Empties s) ∧
    (c.Empties text ↔ c.Misses text ∧ c.entries.length = capacity) ∧
    (c.Empties text → (c.next text).entries = [c.answer text]) ∧
    (¬c.Empties text → ∀ t ∈ c.entries, t ∈ (c.next text).entries) ∧
    (c.report text).map Diagnostic.message =
      if (maxTextLength < text.length ∨ c.Misses text) ∧ (Template.parse text).Mixes then
        ["Message template is malformed: " ++ text]
      else [] := by
  intro c
  have sound : c.Sound := (Sound.empty 0).run before
  refine ⟨sound.template_answer text, ⟨sound.length_le, sound.nodup, fun t mem =>
    ⟨sound.text_le t mem, sound.parsed t mem⟩⟩, ?_, ?_, sound.empties_iff, ?_, ?_,
    c.message_report text⟩
  · intro long
    refine ⟨?_, fun t mem => serial_ne_of_long long (sound.serial_lt t mem), ?_⟩
    · rw [next, parse_of_long long]
    · intro earlier s later eq
      apply serial_ne_of_long long
      have earlierSound := (Sound.empty 0).run earlier
      have grown : c = ((run {} earlier).next s).run later := by
        rw [← run_cons, ← run_append, ← eq]
      rw [grown]
      exact Nat.lt_of_lt_of_le (earlierSound.serial_answer_lt s) (created_le_run _ _)
  · intro short between
    simp only [run_append, run_cons]
    exact sound.serial_eq_iff short between
  · intro empties
    obtain ⟨misses, full⟩ := sound.empties_iff.mp empties
    exact entries_next_of_full misses full
  · intro kept t mem
    rw [sound.empties_iff] at kept
    exact mem_next_of_mem sound kept mem

/-! ### A full cache -/

theorem texts_run_of_distinct {texts : List String} (distinct : texts.Nodup)
    (short : ∀ s ∈ texts, s.length ≤ maxTextLength) (fits : texts.length ≤ capacity) :
    (run {} texts).entries.map (·.template.text) = texts.reverse := by
  induction texts using List.reverseRecOn with
  | nil => rfl
  | append_singleton texts s ih =>
    obtain ⟨earlier, -, apart⟩ := List.nodup_append.mp distinct
    rw [List.length_append, List.length_singleton] at fits
    have held := ih earlier (fun t mem => short t (List.mem_append_left _ mem)) (by omega)
    have misses : (run {} texts).Misses s := by
      refine ⟨short s (List.mem_append_right _ List.mem_cons_self), find?_eq_none_iff.mpr ?_⟩
      rw [held, List.mem_reverse]
      exact fun mem => apart s mem s List.mem_cons_self rfl
    have count : (run {} texts).entries.length = texts.length := by
      rw [← List.length_map (·.template.text), held, List.length_reverse]
    rw [run_append, run_cons, next, parse_of_misses misses, if_pos (by omega), List.reverse_append]
    exact congrArg (s :: ·) held

def bars (n : Nat) : String := String.ofList (List.replicate n '|')

theorem length_bars (n : Nat) : (bars n).length = n := by
  rw [bars, String.length_ofList, List.length_replicate]

theorem bars_full :
    (run {} ((List.range 1000).map bars)).Misses (bars 1000) ∧
      (run {} ((List.range 1000).map bars)).entries.length = capacity := by
  have injective : Function.Injective bars := by
    intro m n eq
    rw [← length_bars m, eq, length_bars]
  have held : (run {} ((List.range 1000).map bars)).entries.map (·.template.text) =
      ((List.range 1000).map bars).reverse := by
    apply texts_run_of_distinct (List.nodup_range.map injective)
    · intro s mem
      obtain ⟨n, inRange, rfl⟩ := List.mem_map.mp mem
      rw [length_bars]
      exact Nat.le_of_lt (Nat.lt_trans (List.mem_range.mp inRange) (by decide))
    · rw [List.length_map, List.length_range]
      exact Nat.le_refl _
  refine ⟨⟨?_, find?_eq_none_iff.mpr ?_⟩, ?_⟩
  · rw [length_bars]
    decide
  · rw [held, List.mem_reverse, List.mem_map_of_injective injective, List.mem_range]
    exact Nat.lt_irrefl _
  · rw [← List.length_map (·.template.text), held, List.length_reverse, List.length_map,
      List.length_range]
    rfl

theorem parse_after_bars :
    let c := run {} ((List.range 1000).map bars)
    (maxTextLength < (bars 1025).length ∧ (c.next (bars 1025)).entries = c.entries) ∧
    (¬c.Empties (bars 1025) ∧ ∀ t ∈ c.entries, t ∈ (c.next (bars 1025)).entries) ∧
    (c.Empties (bars 1000) ∧ (c.next (bars 1000)).entries = [c.answer (bars 1000)]) ∧
    ((bars 0).length ≤ maxTextLength ∧
      ((c.next (bars 1000)).answer (bars 0)).serial ≠ (answer {} (bars 0)).serial) := by
  have full := bars_full
  obtain ⟨rest, texts⟩ : ∃ rest, (List.range 1000).map bars = bars 0 :: rest :=
    ⟨_, by rw [List.range_succ_eq_map, List.map_cons]⟩
  rw [texts] at full ⊢
  intro c
  obtain ⟨-, -, fresh, -, longEmpties_iff, -, kept, -⟩ :=
    parse_after_run (bars 0 :: rest) (bars 1025)
  obtain ⟨-, -, -, -, empties_iff, emptied, -⟩ := parse_after_run (bars 0 :: rest) (bars 1000)
  obtain ⟨-, -, -, same, -⟩ := parse_after_run [] (bars 0)
  have long : maxTextLength < (bars 1025).length := by
    rw [length_bars]
    decide
  have short : (bars 0).length ≤ maxTextLength := Nat.zero_le _
  have empties : c.Empties (bars 1000) := empties_iff.mpr full
  have keeps : ¬c.Empties (bars 1025) := by
    rw [longEmpties_iff]
    exact fun full => absurd full.1.1 (Nat.not_le.mpr long)
  refine ⟨⟨long, (fresh long).1⟩, ⟨keeps, kept keeps⟩, ⟨empties, emptied empties⟩, short, ?_⟩
  -- The first of the thousand texts comes again once the text after them has emptied the cache.
  have again := same short (rest ++ [bars 1000])
  simp only [List.nil_append] at again
  rw [← List.cons_append, run_append, run_cons _ (bars 1000), run_nil, run_nil] at again
  intro eq
  apply again.mp eq rest (bars 1000) [bars 0] _ empties
  rw [List.append_assoc, List.singleton_append]

end TemplateCache

end StructuredLog
