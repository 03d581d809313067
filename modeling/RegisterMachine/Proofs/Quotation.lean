import RegisterMachine.Proofs.Text
import RegisterMachine.Source.Statement

/-!
Reading a line with quoted spans piece by piece. Where the reader stands after one piece decides how
the next is read, so a text without bare marks can be cut, trimmed and joined again. A piece that
ends at a comma has closed its spans.
-/

namespace RegisterMachine.Source

namespace Quotation

variable {state : Quotation} {text rest : List Char} {c : Char} {mark : Char → Bool}

def after (state : Quotation) (text : List Char) : Quotation :=
  text.foldl next state

@[simp] theorem after_nil (state : Quotation) : state.after [] = state := rfl

@[simp] theorem after_cons (state : Quotation) (c : Char) (text : List Char) :
    state.after (c :: text) = (state.next c).after text := rfl

@[simp] theorem after_append (state : Quotation) (text rest : List Char) :
    state.after (text ++ rest) = (state.after text).after rest :=
  List.foldl_append

/-- None of the marks stands outside of quoted spans. -/
def Free (mark : Char → Bool) : Quotation → List Char → Prop
  | _, [] => True
  | state, c :: rest => (state.covers c = false → mark c = false) ∧ Free mark (state.next c) rest

@[simp] theorem free_append_iff :
    Free mark state (text ++ rest) ↔ Free mark state text ∧ Free mark (state.after text) rest := by
  induction text generalizing state with
  | nil => simp [Free]
  | cons c text ih => simp only [List.cons_append, Free, ih, after_cons, and_assoc]

theorem free_cons_of_covers (h : state.covers c = true) (hrest : Free mark (state.next c) rest) :
    Free mark state (c :: rest) := by
  refine ⟨?_, hrest⟩
  rw [h]
  intro hcovers
  cases hcovers

theorem eq_outside_of_covers (h : state.covers c = false) :
    state = outside ∧ isQuote c = false := by
  cases state with
  | outside => exact ⟨rfl, h⟩
  | inside | escaped => cases h

theorem next_outside (h : isQuote c = false) : outside.next c = outside := by
  simp [next, h]

theorem after_outside (h : ∀ c ∈ text, isQuote c = false) : outside.after text = outside := by
  induction text with
  | nil => rfl
  | cons c text ih =>
    obtain ⟨hc, htext⟩ := List.forall_mem_cons.mp h
    rw [after_cons, next_outside hc, ih htext]

theorem free_outside (hquote : ∀ c ∈ text, isQuote c = false) (hmark : ∀ c ∈ text, mark c = false) :
    Free mark outside text := by
  induction text with
  | nil => trivial
  | cons c text ih =>
    obtain ⟨hc, htext⟩ := List.forall_mem_cons.mp hquote
    obtain ⟨hcmark, htextmark⟩ := List.forall_mem_cons.mp hmark
    refine ⟨fun _ => hcmark, ?_⟩
    rw [next_outside hc]
    exact ih htext htextmark

theorem isQuote_of_isBlank (h : Text.isBlank c = true) : isQuote c = false := by
  rw [Bool.eq_false_iff]
  intro hquote
  rcases (by simpa [isQuote] using hquote : c = '\'' ∨ c = '"') with rfl | rfl
  · cases h
  · cases h

theorem after_blanks (h : ∀ c ∈ text, Text.isBlank c = true) : outside.after text = outside :=
  after_outside fun c hc => isQuote_of_isBlank (h c hc)

/-- The span in which the reader stands was opened by a quote. -/
def Opened : Quotation → Prop
  | outside => True
  | inside quote => isQuote quote = true
  | escaped quote => isQuote quote = true

theorem Opened.next (h : state.Opened) (c : Char) : (state.next c).Opened := by
  cases state with
  | outside =>
    simp only [Quotation.next]
    split
    · assumption
    · trivial
  | inside quote =>
    simp only [Quotation.next]
    split
    · exact h
    · split
      · trivial
      · exact h
  | escaped quote => exact h

theorem Opened.after (h : state.Opened) (text : List Char) : (state.after text).Opened := by
  induction text generalizing state with
  | nil => exact h
  | cons c text ih => exact ih (h.next c)

/-- Blanks close no span. -/
theorem Opened.eq_outside (h : state.Opened) (hblanks : ∀ c ∈ text, Text.isBlank c = true)
    (hafter : state.after text = outside) : state = outside := by
  induction text generalizing state with
  | nil => exact hafter
  | cons c text ih =>
    obtain ⟨hc, htext⟩ := List.forall_mem_cons.mp hblanks
    have hnext : state.next c = outside := ih (h.next c) htext hafter
    cases state with
    | outside => rfl
    | inside quote =>
      simp only [Quotation.next] at hnext
      split at hnext
      · cases hnext
      · split at hnext
        · rename_i hquote
          have hsame : isQuote c = true := by rwa [beq_iff_eq.mp hquote]
          rw [isQuote_of_isBlank hc] at hsame
          cases hsame
        · cases hnext
    | escaped quote => cases hnext

end Quotation

open Quotation

variable {state : Quotation} {text rest piece : List Char} {c : Char} {pieces : List (List Char)}

theorem uncommented_of_free (h : Free isCommentMark state text) :
    uncommented state text = text := by
  induction text generalizing state with
  | nil => rfl
  | cons c text ih =>
    obtain ⟨hc, htext⟩ := h
    unfold uncommented
    rw [ih htext, if_neg]
    intro hmark
    simp only [Bool.and_eq_true, Bool.not_eq_true'] at hmark
    rw [hc hmark.1] at hmark
    cases hmark.2

theorem uncommented_append (h : Free isCommentMark state text) (rest : List Char) :
    uncommented state (text ++ rest) = text ++ uncommented (state.after text) rest := by
  induction text generalizing state with
  | nil => rfl
  | cons c text ih =>
    obtain ⟨hc, htext⟩ := h
    have hmark : ¬ (!state.covers c && isCommentMark c) = true := by
      intro hmark
      simp only [Bool.and_eq_true, Bool.not_eq_true'] at hmark
      cases (hc hmark.1).symm.trans hmark.2
    rw [List.cons_append, uncommented, if_neg hmark, ih htext]
    rfl

theorem free_uncommented (state : Quotation) (text : List Char) :
    Free isCommentMark state (uncommented state text) := by
  induction text generalizing state with
  | nil => trivial
  | cons c text ih =>
    unfold uncommented
    split
    · trivial
    · rename_i hmark
      simp only [Bool.and_eq_true, Bool.not_eq_true', not_and, Bool.not_eq_true] at hmark
      exact ⟨hmark, ih _⟩

def isComma (c : Char) : Bool :=
  c == ','

theorem fragments_cons (h : state.covers c = false → isComma c = false) (text : List Char) :
    fragments state (c :: text) = Text.consFirst c (fragments (state.next c) text) := by
  rw [fragments, if_neg]
  intro hcomma
  simp only [Bool.and_eq_true, Bool.not_eq_true'] at hcomma
  cases (h hcomma.1).symm.trans hcomma.2

theorem fragments_of_free (h : Free isComma state text) : fragments state text = [text] := by
  induction text generalizing state with
  | nil => rfl
  | cons c text ih =>
    rw [fragments_cons h.1, ih h.2]
    rfl

/-- A bare comma ends the first piece. -/
theorem fragments_append_comma (h : Free isComma state text) (hafter : state.after text = outside)
    (rest : List Char) :
    fragments state (text ++ ',' :: rest) = text :: fragments outside rest := by
  induction text generalizing state with
  | nil =>
    obtain rfl : state = outside := hafter
    rfl
  | cons c text ih =>
    rw [List.cons_append, fragments_cons h.1, ih h.2 hafter]
    rfl

/-- Pieces of a text that commas separate, when the first is read from the given state: no comma and
no comment mark in them is bare, and each but the last has closed its spans. -/
def Pieces : Quotation → List (List Char) → Prop
  | _, [] => True
  | state, piece :: rest => Free isComma state piece ∧ Free isCommentMark state piece ∧
      (rest = [] ∨ state.after piece = outside) ∧ Pieces outside rest

theorem pieces_consFirst (hcomma : state.covers c = false → isComma c = false)
    (hmark : state.covers c = false → isCommentMark c = false)
    (h : Pieces (state.next c) pieces) : Pieces state (Text.consFirst c pieces) := by
  cases pieces with
  | nil => exact ⟨⟨hcomma, trivial⟩, ⟨hmark, trivial⟩, .inl rfl, trivial⟩
  | cons piece rest =>
    obtain ⟨hpiece, hpieceMark, hlast, hrest⟩ := h
    exact ⟨⟨hcomma, hpiece⟩, ⟨hmark, hpieceMark⟩, hlast, hrest⟩

theorem pieces_fragments (h : Free isCommentMark state text) :
    Pieces state (fragments state text) := by
  induction text generalizing state with
  | nil => exact ⟨trivial, trivial, .inl rfl, trivial⟩
  | cons c text ih =>
    obtain ⟨hc, htext⟩ := h
    unfold fragments
    split
    · rename_i hcomma
      simp only [Bool.and_eq_true, Bool.not_eq_true'] at hcomma
      obtain ⟨rfl, hquote⟩ := eq_outside_of_covers hcomma.1
      rw [next_outside hquote] at htext ⊢
      exact ⟨trivial, trivial, .inr rfl, ih htext⟩
    · rename_i hcomma
      simp only [Bool.and_eq_true, Bool.not_eq_true', not_and, Bool.not_eq_true] at hcomma
      exact pieces_consFirst hcomma hc (ih htext)

theorem free_trim {mark : Char → Bool} (h : Free mark outside text) :
    Free mark outside (Text.trim text) := by
  obtain ⟨front, back, hfront, _, htext⟩ := Text.exists_trim text
  rw [htext, free_append_iff, free_append_iff, after_blanks hfront] at h
  exact h.2.1

theorem after_trim (h : outside.after text = outside) :
    outside.after (Text.trim text) = outside := by
  obtain ⟨front, back, hfront, hback, htext⟩ := Text.exists_trim text
  rw [htext, after_append, after_append, after_blanks hfront] at h
  have houtside : outside.Opened := trivial
  exact (houtside.after _).eq_outside hback h

theorem Pieces.map_trim (h : Pieces outside pieces) : Pieces outside (pieces.map Text.trim) := by
  induction pieces with
  | nil => trivial
  | cons piece rest ih =>
    obtain ⟨hcomma, hmark, hlast, hrest⟩ := h
    refine ⟨free_trim hcomma, free_trim hmark, ?_, ih hrest⟩
    rcases hlast with rfl | hafter
    · exact .inl rfl
    · exact .inr (after_trim hafter)

theorem Pieces.filter (h : Pieces outside pieces) (keep : List Char → Bool) :
    Pieces outside (pieces.filter keep) := by
  induction pieces with
  | nil => trivial
  | cons piece rest ih =>
    obtain ⟨hcomma, hmark, hlast, hrest⟩ := h
    rw [List.filter_cons]
    split
    · refine ⟨hcomma, hmark, ?_, ih hrest⟩
      rcases hlast with rfl | hafter
      · exact .inl rfl
      · exact .inr hafter
    · exact ih hrest

end RegisterMachine.Source
