import StructuredLog.Template.Token
import StructuredLog.Text.Alphanumeric

/-!
Scanning a template from left to right. A text run stops at the next single `{`; a tag runs from
there over the characters that may stand in a tag. A tag that is not closed, or does not have the
shape `{[@|$]name[,[-]width][:format]}`, becomes literal text, so scanning never fails.
-/

namespace StructuredLog.Template

open Text

def isNameChar (c : Char) : Bool := isAlphanumeric c || c == '_'

def symbols : List Char := ['$', '+', '<', '=', '>', '^', '\x60', '|', '~']

/-- ASCII punctuation, the symbols among it left out. -/
def isPunctuation (c : Char) : Bool :=
  decide (0x21 ≤ c.toNat) && decide (c.toNat ≤ 0x7E) && !c.isAlphanum &&
    !symbols.contains c

def isFormatChar (c : Char) : Bool :=
  c != '}' && (isAlphanumeric c || isPunctuation c || c == ' ' || c == '+')

def isTagChar (c : Char) : Bool :=
  (Hint.ofMark? c).isSome || isNameChar c || isFormatChar c || c == ':'

theorem le_maxWidth {n : Nat} (le : n ≤ 0x7fffffff) : n ≤ Alignment.maxWidth :=
  Nat.le_trans le (by decide)

/-- A width of 31 bits other than zero. -/
def width? (side : Side) (digits : List Char) : Option Alignment :=
  (nat? digits).bind fun w =>
    if h : 0 < w ∧ w ≤ 0x7fffffff then some ⟨side, w, le_maxWidth h.2⟩ else none

/-- The left side has a dash before the width. -/
def alignment? : List Char → Option Alignment
  | '-' :: digits => width? .left digits
  | digits => width? .right digits

/-- Name, alignment and format of a tag. The first colon starts the format, and a comma counts
only before it; what stands between comma and colon must not be empty, an empty format is none. -/
def tagParts? (content : List Char) :
    Option (List Char × Option (List Char) × Option (List Char)) :=
  let head := content.takeWhile (· != ':')
  let format := match content.dropWhile (· != ':') with
    | _ :: f => if f.isEmpty then none else some f
    | [] => none
  match head.dropWhile (· != ',') with
  | [] => some (head, none, format)
  | [_] => none
  | _ :: width => some (head.takeWhile (· != ','), some width, format)

/-- A leading mark is no part of the name. -/
def splitMark : List Char → Hint × List Char
  | [] => (.default, [])
  | c :: cs => match Hint.ofMark? c with
    | some hint => (hint, cs)
    | none => (.default, c :: cs)

def placeholder? (content : List Char) : Option Placeholder := do
  let (marked, width, format) ← tagParts? content
  let (hint, name) := splitMark marked
  guard (name ≠ [] ∧ name.all isNameChar ∧ (format.getD []).all isFormatChar)
  let alignment ← match width with
    | some w => (alignment? w).map some
    | none => some none
  return {
    name := String.ofList name
    source := String.ofList ('{' :: content ++ ['}'])
    format := format.map String.ofList
    alignment := alignment
    hint := hint }

/-- The token of a closed tag. -/
def tagToken (content : List Char) : Token :=
  match placeholder? content with
  | some p => .placeholder p
  | none => .text (String.ofList ('{' :: content ++ ['}']))

/-- The text before the next single opening brace with its doubled braces undone, and the rest. -/
def literal : List Char → List Char × List Char
  | [] => ([], [])
  | '{' :: '{' :: rest => let p := literal rest; ('{' :: p.1, p.2)
  | '{' :: rest => ([], '{' :: rest)
  | '}' :: '}' :: rest => let p := literal rest; ('}' :: p.1, p.2)
  | c :: rest => let p := literal rest; (c :: p.1, p.2)

theorem literal_length_le (cs : List Char) : (literal cs).2.length ≤ cs.length := by
  fun_induction literal cs <;> simp_all +zetaDelta <;> omega

/-- An opening brace that is not doubled. -/
def opensTag : List Char → Bool
  | '{' :: '{' :: _ => false
  | '{' :: _ => true
  | _ => false

theorem literal_length_lt {c : Char} {cs : List Char} (h : opensTag (c :: cs) = false) :
    (literal (c :: cs)).2.length < (c :: cs).length := by
  have below := literal_length_le
  rw [literal.eq_def]
  split
  · simp
  · rename_i rest e
    simp only [e, List.length_cons]
    have := below rest
    omega
  · rename_i rest _ e
    simp only [List.cons.injEq] at e
    obtain ⟨rfl, rfl⟩ := e
    unfold opensTag at h
    split at h <;> simp_all
  · rename_i rest e
    simp only [e, List.length_cons]
    have := below rest
    omega
  · rename_i d rest _ _ _ e
    simp only [e, List.length_cons]
    have := below rest
    omega

/-- The tokens of a template that is not empty. -/
def scan (cs : List Char) : List Token :=
  match cs with
  | [] => []
  | c :: rest =>
    if _h : opensTag (c :: rest) then
      match _hr : rest.dropWhile isTagChar with
      | '}' :: after => tagToken (rest.takeWhile isTagChar) :: scan after
      | after => .text (String.ofList (c :: rest.takeWhile isTagChar)) :: scan after
    else
      .text (String.ofList (literal (c :: rest)).1) :: scan (literal (c :: rest)).2
termination_by cs.length
decreasing_by
  · have := (List.dropWhile_sublist (l := rest) isTagChar).length_le
    rw [_hr] at this
    simp only [List.length_cons] at this ⊢
    omega
  · have := (List.dropWhile_sublist (l := rest) isTagChar).length_le
    rw [_hr] at this
    simp only [List.length_cons]
    omega
  · exact literal_length_lt (by simpa using _h)

/-- The empty template is one empty text. -/
def tokenize (s : String) : List Token :=
  if s.isEmpty then [.text ""] else scan s.toList

end StructuredLog.Template
