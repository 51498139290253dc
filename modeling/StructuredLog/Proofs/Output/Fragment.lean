import Mathlib
import StructuredLog.Output.Display

/-!
Styled output taken apart into the text that is seen and the sequences that a theme puts around it.
Padding is text that is seen. The fragments make up the output, those that are seen make up the
output without a theme, and the others have as many characters as are counted invisible.
-/

namespace StructuredLog

inductive Fragment where
  | shown (text : String)
  /-- The escape sequence of a style. -/
  | set (style : Style)
  | reset
  deriving DecidableEq, Repr

namespace Fragment

def isShown : Fragment → Bool
  | .shown _ => true
  | _ => false

def text (t : Theme) : Fragment → String
  | .shown s => s
  | .set style => t.escape style
  | .reset => t.reset

def textAll (t : Theme) (fs : List Fragment) : String := String.join (fs.map (text t))

/-- What is left once all that a theme sets and resets is deleted. -/
def seen (t : Theme) (fs : List Fragment) : String := textAll t (fs.filter isShown)

/-- What is deleted then. -/
def unseen (t : Theme) (fs : List Fragment) : String := textAll t (fs.filter fun f => !f.isShown)

@[simp] theorem textAll_nil (t : Theme) : textAll t [] = "" := rfl

@[simp] theorem textAll_cons (t : Theme) (f : Fragment) (fs : List Fragment) :
    textAll t (f :: fs) = f.text t ++ textAll t fs := by
  simp [textAll]

@[simp] theorem textAll_append (t : Theme) (fs gs : List Fragment) :
    textAll t (fs ++ gs) = textAll t fs ++ textAll t gs := by
  induction fs with
  | nil => simp
  | cons f fs ih => simp [ih, String.append_assoc]

section Deleting

variable (t : Theme) (fs gs : List Fragment) (s : String) (style : Style)

@[simp] theorem seen_nil : seen t [] = "" := rfl

@[simp] theorem seen_shown : seen t (.shown s :: fs) = s ++ seen t fs :=
  textAll_cons t (.shown s) (fs.filter isShown)

@[simp] theorem seen_set : seen t (.set style :: fs) = seen t fs := rfl

@[simp] theorem seen_reset : seen t (.reset :: fs) = seen t fs := rfl

@[simp] theorem seen_append : seen t (fs ++ gs) = seen t fs ++ seen t gs := by
  simp [seen]

@[simp] theorem unseen_nil : unseen t [] = "" := rfl

@[simp] theorem unseen_shown : unseen t (.shown s :: fs) = unseen t fs := rfl

@[simp] theorem unseen_set : unseen t (.set style :: fs) = t.escape style ++ unseen t fs :=
  textAll_cons t (.set style) (fs.filter fun f => !f.isShown)

@[simp] theorem unseen_reset : unseen t (.reset :: fs) = t.reset ++ unseen t fs :=
  textAll_cons t .reset (fs.filter fun f => !f.isShown)

@[simp] theorem unseen_append : unseen t (fs ++ gs) = unseen t fs ++ unseen t gs := by
  simp [unseen]

end Deleting

/-- Deleting takes nothing twice and leaves nothing out. -/
theorem length_textAll (t : Theme) (fs : List Fragment) :
    (textAll t fs).length = (seen t fs).length + (unseen t fs).length := by
  induction fs with
  | nil => rfl
  | cons f fs ih =>
    rw [textAll_cons, String.length_append, ih]
    cases f <;> simp [text] <;> omega

/-- The plain theme's sequences are empty, so there is nothing to delete. -/
theorem unseen_plain (fs : List Fragment) : unseen Theme.plain fs = "" := by
  induction fs with
  | nil => rfl
  | cons f fs ih => cases f <;> simp [ih]

theorem textAll_plain (fs : List Fragment) : textAll Theme.plain fs = seen Theme.plain fs := by
  induction fs with
  | nil => rfl
  | cons f fs ih => cases f <;> simp [ih, text]

end Fragment

def Side.padFragments (side : Side) (n : Nat) (fs : List Fragment) : List Fragment :=
  match side with
  | .left => fs ++ [.shown (spaces n)]
  | .right => .shown (spaces n) :: fs

namespace Side

open Fragment

variable (side : Side) (n : Nat) (t : Theme) (fs : List Fragment)

theorem textAll_padFragments :
    textAll t (side.padFragments n fs) = side.pad n (textAll t fs) := by
  cases side <;> simp [padFragments, pad, text]

theorem seen_padFragments : seen t (side.padFragments n fs) = side.pad n (seen t fs) := by
  cases side <;> simp [padFragments, pad]

theorem unseen_padFragments : unseen t (side.padFragments n fs) = unseen t fs := by
  cases side <;> simp [padFragments]

end Side

namespace Piece

/-! ### Pieces in a row -/

theorem visibleAll_append (ps qs : List Piece) :
    visibleAll (ps ++ qs) = visibleAll ps ++ visibleAll qs := by
  induction ps with
  | nil => rw [visibleAll, String.empty_append, List.nil_append]
  | cons p ps ih => rw [List.cons_append, visibleAll, visibleAll, ih, String.append_assoc]

theorem invisibleAll_append (t : Theme) (ps qs : List Piece) :
    invisibleAll t (ps ++ qs) = invisibleAll t ps + invisibleAll t qs := by
  induction ps with
  | nil => rw [List.nil_append, invisibleAll, Nat.zero_add]
  | cons p ps ih => rw [List.cons_append, invisibleAll, invisibleAll, ih, Nat.add_assoc]

theorem visibleAll_commaSeparated (groups : List (List Piece)) :
    visibleAll (commaSeparated groups) = ", ".intercalate (groups.map visibleAll) := by
  induction groups with
  | nil => rfl
  | cons g groups ih =>
    cases groups with
    | nil =>
      rw [commaSeparated, List.intercalate_singleton, List.map_singleton,
        String.intercalate_singleton]
    | cons g' groups =>
      rw [commaSeparated, List.intercalate_cons_cons, visibleAll_append, visibleAll_append,
        List.map_cons, List.map_cons, String.intercalate_cons_cons]
      exact congrArg _ ih

theorem visibleAll_between (opening closing : String) (groups : List (List Piece)) :
    visibleAll (mark opening :: commaSeparated groups ++ [mark closing]) =
      opening ++ ", ".intercalate (groups.map visibleAll) ++ closing := by
  rw [List.cons_append, visibleAll, visibleAll_append, visibleAll_commaSeparated,
    String.append_assoc]
  simp [mark, visible, visibleAll]

/-! ### Pieces as fragments -/

open Fragment

variable (t : Theme)

/-- The number of spaces that a theme puts beside an aligned group. -/
def gap (a : Alignment) (body : List Piece) : Nat :=
  if t.canBuffer then (a.widen (invisibleAll t body)).width - (styledAll t body).length
  else a.width - (visibleAll body).length

theorem styled_aligned (a : Alignment) (body : List Piece) :
    (aligned a body).styled t = a.side.pad (gap t a body) (styledAll t body) := by
  unfold styled gap
  split <;> rfl

mutual

/-- The fragments that a theme makes of a piece, from left to right. -/
def fragments (t : Theme) : Piece → List Fragment
  | .plain s => [.shown s]
  | .span style s => [.set style, .shown s, .reset]
  | .aligned a body => a.side.padFragments (gap t a body) (fragmentsAll t body)

def fragmentsAll (t : Theme) : List Piece → List Fragment
  | [] => []
  | p :: ps => p.fragments t ++ fragmentsAll t ps

end

theorem fragmentsAll_eq_flatMap (ps : List Piece) :
    fragmentsAll t ps = ps.flatMap (fragments t) := by
  induction ps with
  | nil => rfl
  | cons p ps ih => rw [fragmentsAll, ih, List.flatMap_cons]

mutual

theorem textAll_fragments (t : Theme) : ∀ p : Piece, textAll t (p.fragments t) = p.styled t
  | .plain s => by simp [fragments, styled, text]
  | .span style s => by simp [fragments, styled, text, String.append_assoc]
  | .aligned a body => by
    rw [fragments, Side.textAll_padFragments, textAll_fragmentsAll t body, styled_aligned]

theorem textAll_fragmentsAll (t : Theme) :
    ∀ ps : List Piece, textAll t (fragmentsAll t ps) = styledAll t ps
  | [] => rfl
  | p :: ps => by
    rw [fragmentsAll, textAll_append, textAll_fragments t p, textAll_fragmentsAll t ps, styledAll]

end

mutual

/-- Every set and every reset is counted. -/
theorem length_unseen_fragments (t : Theme) :
    ∀ p : Piece, (unseen t (p.fragments t)).length = p.invisible t
  | .plain s => by simp [fragments, invisible]
  | .span style s => by simp [fragments, invisible, Theme.overhead]
  | .aligned a body => by
    rw [fragments, Side.unseen_padFragments, length_unseen_fragmentsAll t body, invisible]

theorem length_unseen_fragmentsAll (t : Theme) :
    ∀ ps : List Piece, (unseen t (fragmentsAll t ps)).length = invisibleAll t ps
  | [] => rfl
  | p :: ps => by
    rw [fragmentsAll, unseen_append, String.length_append, length_unseen_fragments t p,
      length_unseen_fragmentsAll t ps, invisibleAll]

end

theorem invisibleAll_le_length (ps : List Piece) :
    invisibleAll t ps ≤ (styledAll t ps).length := by
  rw [← textAll_fragmentsAll, length_textAll, length_unseen_fragmentsAll]
  exact Nat.le_add_left _ _

mutual

/-- No alignment in a piece needs a width that is out of range once it is widened. -/
def Fits (t : Theme) : Piece → Prop
  | .aligned a body => a.width + invisibleAll t body ≤ Alignment.maxWidth ∧ FitsAll t body
  | _ => True

def FitsAll (t : Theme) : List Piece → Prop
  | [] => True
  | p :: ps => p.Fits t ∧ FitsAll t ps

end

theorem fitsAll_iff (ps : List Piece) : FitsAll t ps ↔ ∀ p ∈ ps, p.Fits t := by
  induction ps with
  | nil => simp [FitsAll]
  | cons p ps ih => simp [FitsAll, ih]

/-- Either way of measuring leaves the same gap beside what is seen. -/
theorem gap_eq {a : Alignment} {body : List Piece}
    (room : a.width + invisibleAll t body ≤ Alignment.maxWidth)
    (body_seen : seen t (fragmentsAll t body) = visibleAll body) :
    gap t a body = a.width - (visibleAll body).length := by
  have measured := length_textAll t (fragmentsAll t body)
  rw [textAll_fragmentsAll, body_seen, length_unseen_fragmentsAll] at measured
  have widened : (a.widen (invisibleAll t body)).width = a.width + invisibleAll t body :=
    Nat.min_eq_left room
  unfold gap
  split
  · rw [widened, measured]
    omega
  · rfl

mutual

theorem seen_fragments (t : Theme) :
    ∀ p : Piece, p.Fits t → seen t (p.fragments t) = p.visible
  | .plain s, _ => by simp [fragments, visible]
  | .span style s, _ => by simp [fragments, visible]
  | .aligned a body, fits => by
    rw [Fits] at fits
    -- The gap is measured on what is seen of the body, so the body comes first.
    have body_seen := seen_fragmentsAll t body fits.2
    rw [fragments, Side.seen_padFragments, gap_eq t fits.1 body_seen, body_seen, visible,
      Alignment.pad]

theorem seen_fragmentsAll (t : Theme) :
    ∀ ps : List Piece, FitsAll t ps → seen t (fragmentsAll t ps) = visibleAll ps
  | [], _ => rfl
  | p :: ps, fits => by
    rw [FitsAll] at fits
    rw [fragmentsAll, seen_append, seen_fragments t p fits.1, seen_fragmentsAll t ps fits.2,
      visibleAll]

end

/-! ### Room for the widths

A text that is short enough has no alignment in it that needed more room than there is: such an
alignment alone would have filled the text up to the greatest width.
-/

mutual

theorem fits_of_length_lt (t : Theme) (buffers : t.canBuffer = true) :
    ∀ p : Piece, (p.styled t).length < Alignment.maxWidth → p.Fits t
  | .plain _, _ => trivial
  | .span _ _, _ => trivial
  | .aligned a body, short => by
    rw [styled, if_pos buffers, Alignment.length_pad, Nat.max_lt] at short
    obtain ⟨bodyShort, widthShort⟩ := short
    have room : a.width + invisibleAll t body < Alignment.maxWidth := by
      rw [Alignment.widen] at widthShort
      exact (min_lt_iff.mp widthShort).resolve_right (Nat.lt_irrefl _)
    exact ⟨Nat.le_of_lt room, fitsAll_of_length_lt t buffers body bodyShort⟩

theorem fitsAll_of_length_lt (t : Theme) (buffers : t.canBuffer = true) :
    ∀ ps : List Piece, (styledAll t ps).length < Alignment.maxWidth → FitsAll t ps
  | [], _ => trivial
  | p :: ps, short => by
    rw [styledAll, String.length_append] at short
    exact ⟨fits_of_length_lt t buffers p (by omega), fitsAll_of_length_lt t buffers ps (by omega)⟩

end

/-! ### Writing to a sink that takes everything -/

theorem writeSpan_none (style : Style) (s before : String) :
    t.writeSpan style s ⟨none, before⟩ =
      (⟨none, before ++ (t.escape style ++ s ++ t.reset)⟩, true) := by
  simp [Theme.writeSpan, Sink.andThen, String.append_assoc]

mutual

theorem write_none (t : Theme) :
    ∀ (p : Piece) (before : String),
      p.write t ⟨none, before⟩ = (⟨none, before ++ p.styled t⟩, true)
  | .plain s, before => by simp [write, styled]
  | .span style s, before => by rw [write, writeSpan_none, styled]
  | .aligned a body, before => by
    rw [styled_aligned]
    unfold write gap
    split
    · rfl
    · cases side : a.side <;>
        simp [Sink.andThen, writeAll_none t body, Side.pad, String.append_assoc]

theorem writeAll_none (t : Theme) :
    ∀ (ps : List Piece) (before : String),
      writeAll t ps ⟨none, before⟩ = (⟨none, before ++ styledAll t ps⟩, true)
  | [], before => by simp [writeAll, styledAll]
  | p :: ps, before => by
    simp only [writeAll, styledAll, write_none t p, Sink.andThen, if_true, writeAll_none t ps,
      String.append_assoc]

end

/-! ### Without a theme -/

theorem invisibleAll_plain (ps : List Piece) : invisibleAll Theme.plain ps = 0 := by
  rw [← length_unseen_fragmentsAll, unseen_plain, String.length_empty]

mutual

/-- Nothing is invisible then that a width would have to make room for. -/
theorem fits_plain : ∀ p : Piece, p.Fits Theme.plain
  | .plain _ => trivial
  | .span _ _ => trivial
  | .aligned a body => by
    have width := a.width_le
    refine ⟨?_, fitsAll_plain body⟩
    rwa [invisibleAll_plain]

theorem fitsAll_plain : ∀ ps : List Piece, FitsAll Theme.plain ps
  | [] => trivial
  | p :: ps => ⟨fits_plain p, fitsAll_plain ps⟩

end

/-- What is seen under a theme is what is written without one. -/
theorem styledAll_plain (ps : List Piece) : styledAll Theme.plain ps = visibleAll ps := by
  rw [← textAll_fragmentsAll, textAll_plain, seen_fragmentsAll Theme.plain ps (fitsAll_plain ps)]

/-! ### Themes that cannot buffer -/

theorem gap_unbuffered (a : Alignment) (body : List Piece) :
    gap t.unbuffered a body = a.width - (visibleAll body).length := rfl

mutual

/-- Measuring first leaves the same gap as measuring what is put together. -/
theorem styled_unbuffered : ∀ {p : Piece}, p.Fits t → p.styled t.unbuffered = p.styled t
  | .plain _, _ => rfl
  | .span _ _, _ => rfl
  | .aligned a body, fits => by
    obtain ⟨room, bodyFits⟩ := fits
    have bodySeen := seen_fragmentsAll t body bodyFits
    rw [styled_aligned, styled_aligned, gap_unbuffered, gap_eq t room bodySeen,
      styledAll_unbuffered bodyFits]

theorem styledAll_unbuffered :
    ∀ {ps : List Piece}, FitsAll t ps → styledAll t.unbuffered ps = styledAll t ps
  | [], _ => rfl
  | _ :: _, fits => by
    rw [styledAll, styledAll, styled_unbuffered fits.1, styledAll_unbuffered fits.2]

end

end Piece

end StructuredLog
