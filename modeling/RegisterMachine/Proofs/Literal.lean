import RegisterMachine.Proofs.Operand
import RegisterMachine.Proofs.Quotation

/-!
Where a character literal ends. The reader of a line and the reader of literals look at quotes in
their own ways. Every character of a literal belongs to a span, but two kinds of literals leave the
span open: a quote between quotes of its own kind, and a lone backslash. What follows such a literal
on its line is then read as a part of it.
-/

namespace RegisterMachine

open Source Source.Quotation

namespace Source.Quotation

variable {state : Quotation} {text rest : List Char} {quote : Char}

def Covered (state : Quotation) (text : List Char) : Prop :=
  ∀ front c rest, text = front ++ c :: rest → (state.after front).covers c = true

theorem covered_nil (state : Quotation) : state.Covered [] := by
  intro front c rest h
  cases front <;> cases h

theorem covered_cons {c : Char} (hc : state.covers c = true) (h : (state.next c).Covered text) :
    state.Covered (c :: text) := by
  intro front d rest htext
  cases front with
  | nil =>
    cases htext
    exact hc
  | cons first front =>
    obtain ⟨rfl, htail⟩ := List.cons.inj htext
    exact h front d rest htail

theorem Covered.free (h : state.Covered text) (mark : Char → Bool) : Free mark state text := by
  induction text generalizing state with
  | nil => trivial
  | cons c text ih =>
    apply free_cons_of_covers (h [] c text rfl)
    apply ih
    intro front d rest htext
    exact h (c :: front) d rest (congrArg (c :: ·) htext)

/-- The reader is in a span of this quote, maybe right after a backslash. -/
def InSpan (quote : Char) (state : Quotation) : Prop :=
  state = inside quote ∨ state = escaped quote

theorem InSpan.next {c : Char} (h : InSpan quote state) (hc : c ≠ quote) :
    InSpan quote (state.next c) := by
  rcases h with rfl | rfl
  · by_cases hslash : c = '\\'
    · exact .inr (by simp only [Quotation.next, hslash, beq_self_eq_true, ite_true])
    · exact .inl (by simp only [Quotation.next, beq_iff_eq, hslash, hc, ite_false])
  · exact .inl rfl

/-- A span takes in all that holds no quote of its kind. -/
theorem InSpan.covered (h : InSpan quote state) (hrest : quote ∉ rest) : state.Covered rest := by
  induction rest generalizing state with
  | nil => exact covered_nil state
  | cons c rest ih =>
    have hne : c ≠ quote := by
      rintro rfl
      exact hrest List.mem_cons_self
    have hcovers : state.covers c = true := by
      rcases h with rfl | rfl <;> rfl
    have htail : quote ∉ rest := fun hmem => hrest (List.mem_cons_of_mem c hmem)
    exact covered_cons hcovers (ih (h.next hne) htail)

end Source.Quotation

namespace Operand

open Literal (charCode body? escape?)

variable {token : List Char} {value : Int}

theorem exists_body_of_isQuoted (h : isQuoted token = true) :
    ∃ quote, isQuote quote = true ∧
      (token = [quote] ∨ ∃ body, token = quote :: (body ++ [quote])) := by
  cases token with
  | nil => cases h
  | cons quote rest =>
    simp only [isQuoted, Bool.and_eq_true, beq_iff_eq] at h
    obtain ⟨hquote, hlast⟩ := h
    refine ⟨quote, hquote, ?_⟩
    obtain ⟨front, hfront⟩ := List.getLast?_eq_some_iff.mp hlast
    cases front with
    | nil => exact .inl hfront
    | cons first body =>
      obtain ⟨rfl, hrest⟩ := List.cons.inj hfront
      exact .inr ⟨body, congrArg (quote :: ·) hrest⟩

theorem two_le_byteLength {quote : Char} (hquote : isQuote quote = true) (body : List Char) :
    2 ≤ Literal.byteLength (quote :: (body ++ [quote])) := by
  have hgrows : ∀ (text : List Char) (start : Nat),
      start ≤ text.foldl (fun total c => total + c.utf8Size) start := by
    intro text
    induction text with
    | nil => exact Nat.le_refl
    | cons c text ih =>
      intro start
      exact Nat.le_trans (Nat.le_add_right start _) (ih _)
  have hbody := hgrows body (0 + quote.utf8Size)
  simp only [Literal.byteLength, List.foldl_cons, List.foldl_append, List.foldl_nil,
    utf8Size_of_isQuote hquote] at hbody ⊢
  omega

theorem body?_quoted {quote : Char} (hquote : isQuote quote = true) (body : List Char) :
    body? (quote :: (body ++ [quote])) = some body := by
  have hlast : (quote :: (body ++ [quote])).getLast? = some quote := by
    rw [← List.cons_append, List.getLast?_concat]
  have hsize := utf8Size_of_isQuote hquote
  unfold body?
  rw [if_neg (Nat.not_lt.mpr (two_le_byteLength hquote body)), hlast]
  simp only [List.head?_cons, hsize, and_self, ite_true, List.tail_cons, List.dropLast_concat]

theorem body?_bare {quote : Char} (hquote : isQuote quote = true) : body? [quote] = some [] := by
  simp only [body?, Literal.byteLength, List.foldl_cons, List.foldl_nil,
    utf8Size_of_isQuote hquote]
  rfl

/-- A literal is one character, or a backslash and a letter, between quotes. -/
theorem charCode_eq_ok_cases (hquoted : isQuoted token = true) (h : charCode token = .ok value) :
    ∃ quote, isQuote quote = true ∧
      ((∃ c, token = [quote, c, quote]) ∨ ∃ letter, token = [quote, '\\', letter, quote]) := by
  obtain ⟨quote, hquote, rfl | ⟨body, rfl⟩⟩ := exists_body_of_isQuoted hquoted
  · rw [charCode, body?_bare hquote] at h
    cases h
  · refine ⟨quote, hquote, ?_⟩
    rw [charCode, body?_quoted hquote body] at h
    split at h
    · cases h
    · cases h
    · rename_i c hbody
      cases hbody
      exact .inl ⟨c, rfl⟩
    · rename_i letter hbody
      cases hbody
      exact .inr ⟨letter, rfl⟩
    · cases h

theorem isQuote_ne_backslash {quote : Char} (h : isQuote quote = true) : quote ≠ '\\' := by
  rintro rfl
  cases h

section
variable {quote : Char}

theorem next_quote (hquote : isQuote quote = true) : outside.next quote = inside quote := by
  simp only [Quotation.next, hquote, ite_true]

theorem next_close (hquote : isQuote quote = true) : (inside quote).next quote = outside := by
  have hslash := isQuote_ne_backslash hquote
  simp only [Quotation.next, beq_iff_eq, hslash, ite_false, ite_true]

theorem after_escape (hquote : isQuote quote = true) (letter : Char) :
    outside.after [quote, '\\', letter, quote] = outside := by
  rw [after_cons, next_quote hquote]
  exact next_close hquote

theorem after_plain (hquote : isQuote quote = true) (c : Char) :
    outside.after [quote, c, quote] = if c = quote ∨ c = '\\' then inside quote else outside := by
  rw [after_cons, next_quote hquote, after_cons, after_cons, after_nil]
  by_cases hsame : c = quote
  · rw [if_pos (.inl hsame), hsame, next_close hquote, next_quote hquote]
  · by_cases hslash : c = '\\'
    · rw [if_pos (.inr hslash), hslash]
      rfl
    · have hstays : (inside quote).next c = inside quote := by
        simp only [Quotation.next, beq_iff_eq, hslash, hsame, ite_false]
      rw [if_neg (by simp only [hsame, hslash, or_self, not_false_eq_true]), hstays,
        next_close hquote]

theorem covered_of_opened (hquote : isQuote quote = true) {c : Char} {text : List Char}
    (h : ((inside quote).next c).Covered text) : outside.Covered (quote :: c :: text) := by
  have hopen : outside.covers quote = true := hquote
  apply covered_cons hopen
  rw [next_quote hquote]
  exact covered_cons rfl h

end

theorem covered_literal (hquoted : isQuoted token = true) (h : charCode token = .ok value) :
    outside.Covered token := by
  obtain ⟨quote, hquote, ⟨c, rfl⟩ | ⟨letter, rfl⟩⟩ := charCode_eq_ok_cases hquoted h
  · apply covered_of_opened hquote
    apply covered_cons ?_ (covered_nil _)
    by_cases hsame : c = quote
    · rw [hsame, next_close hquote]
      exact hquote
    · rcases InSpan.next (.inl rfl) hsame with hnext | hnext <;> rw [hnext] <;> rfl
  · apply covered_of_opened hquote
    exact covered_cons rfl (covered_cons rfl (covered_nil _))

/-- The literals behind which the reader of a line still stands in their span. -/
def Unclosed (token : List Char) : Prop :=
  ∃ quote, token = [quote, quote, quote] ∨ token = [quote, '\\', quote]

theorem after_eq_outside_iff (hquoted : isQuoted token = true) (h : charCode token = .ok value) :
    outside.after token = outside ↔ ¬ Unclosed token := by
  obtain ⟨quote, hquote, ⟨c, rfl⟩ | ⟨letter, rfl⟩⟩ := charCode_eq_ok_cases hquoted h
  · rw [after_plain hquote]
    have hunclosed : Unclosed [quote, c, quote] ↔ c = quote ∨ c = '\\' := by
      constructor
      · rintro ⟨other, hother | hother⟩
        · cases hother
          exact .inl rfl
        · cases hother
          exact .inr rfl
      · rintro (rfl | rfl)
        · exact ⟨c, .inl rfl⟩
        · exact ⟨quote, .inr rfl⟩
    rw [hunclosed]
    by_cases hc : c = quote ∨ c = '\\'
    · simp only [hc, ite_true, reduceCtorEq, not_true_eq_false]
    · simp only [hc, ite_false, not_false_eq_true]
  · simp only [after_escape hquote, true_iff]
    rintro ⟨other, hother | hother⟩ <;> cases hother

theorem inSpan_of_unclosed {quote : Char} (hquoted : isQuoted token = true)
    (h : token = [quote, quote, quote] ∨ token = [quote, '\\', quote]) :
    InSpan quote (outside.after token) := by
  have hquote : isQuote quote = true := by
    rcases h with rfl | rfl
    · simp only [isQuoted, Bool.and_eq_true] at hquoted
      exact hquoted.1
    · simp only [isQuoted, Bool.and_eq_true] at hquoted
      exact hquoted.1
  rcases h with rfl | rfl
  · rw [after_plain hquote, if_pos (.inl rfl)]
    exact .inl rfl
  · rw [after_plain hquote, if_pos (.inr rfl)]
    exact .inl rfl

/-- All of a literal belongs to spans, and its span is closed behind it unless the literal is a
quote of its own kind or a backslash. A closed literal leaves a comment or a comma behind it alone;
the others take in everything up to the next quote of their kind. -/
theorem span_of_literal (hquoted : isQuoted token = true) (h : charCode token = .ok value) :
    outside.Covered token ∧ (outside.after token = outside ↔ ¬ Unclosed token) ∧
    (¬ Unclosed token → ∀ rest,
      uncommented outside (token ++ rest) = token ++ uncommented outside rest ∧
      fragments outside (token ++ ',' :: rest) = token :: fragments outside rest) ∧
    ∀ quote, token = [quote, quote, quote] ∨ token = [quote, '\\', quote] →
      ∀ rest, quote ∉ rest → uncommented outside (token ++ rest) = token ++ rest ∧
        fragments outside (token ++ rest) = [token ++ rest] := by
  have hcovered := covered_literal hquoted h
  have hclosed := after_eq_outside_iff hquoted h
  refine ⟨hcovered, hclosed, ?_, ?_⟩
  · intro hunclosed rest
    have hafter := hclosed.mpr hunclosed
    refine ⟨?_, fragments_append_comma (hcovered.free _) hafter rest⟩
    rw [uncommented_append (hcovered.free _), hafter]
  · intro quote htoken rest hrest
    have hinside := (inSpan_of_unclosed hquoted htoken).covered hrest
    have hfree : ∀ mark, Free mark outside (token ++ rest) := by
      intro mark
      exact free_append_iff.mpr ⟨hcovered.free mark, hinside.free mark⟩
    exact ⟨uncommented_of_free (hfree _), fragments_of_free (hfree _)⟩

/-- An escaped quote is closed, so its comment goes. A quote without the backslash is as good a
literal, but its comment stays. -/
theorem span_of_quote_literals :
    charCode "'\\''".toList = .ok 39 ∧ charCode "'''".toList = .ok 39 ∧
    uncommented outside ("'\\''".toList ++ " ; it".toList) = "'\\'' ".toList ∧
    uncommented outside ("'''".toList ++ " ; it".toList) = "''' ; it".toList := by
  have hescaped := @span_of_literal "'\\''".toList 39 rfl rfl
  have hbare := @span_of_literal "'''".toList 39 rfl rfl
  refine ⟨rfl, rfl, ?_, ?_⟩
  · have hclosed : ¬ Unclosed "'\\''".toList := hescaped.2.1.mp rfl
    exact (hescaped.2.2.1 hclosed _).1
  · exact (hbare.2.2.2 '\'' (.inl rfl) " ; it".toList (by decide)).1

/-- A comment behind the literal of a bare quote becomes part of the operand, which then has no
value. -/
theorem comment_taken_into_literal :
    isQuoted "'''".toList = true ∧ charCode "'''".toList = .ok 39 ∧
    outside.after "'''".toList = inside '\'' ∧
    (Statement.ofLine "LOAD r0, ''' ; it".toList).action =
      some ⟨"LOAD", ["r0", "''' ; it"]⟩ ∧
    resolve "''' ; it" [.register, .memory, .immediate] {} = .error .malformedNumber :=
  ⟨rfl, rfl, rfl, rfl, rfl⟩

end Operand

end RegisterMachine
