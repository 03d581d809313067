import RegisterMachine.Proofs.Concatenation
import RegisterMachine.Proofs.Outline
import RegisterMachine.Proofs.Quotation

/-!
Comments. What stands behind a bare comment mark is not read, whatever quotes, colons or further
marks it holds. So a comment can be put behind a line that has one already, and behind a line on
which no span is left open, and the source still says the same.
-/

namespace RegisterMachine

namespace Source

open Quotation

variable {state : Quotation} {line raw text : List Char} {mark : Char}

/-- A comment mark of the line stands outside of quoted spans. -/
def Commented (line : List Char) : Prop :=
  ∃ front mark rest, line = front ++ mark :: rest ∧ isCommentMark mark = true ∧
    (outside.after front).covers mark = false

theorem Commented.not_free (h : Commented line) : ¬ Free isCommentMark outside line := by
  obtain ⟨front, mark, rest, rfl, hmark, hbare⟩ := h
  intro hfree
  have hnone := (free_append_iff.mp hfree).2.1 hbare
  cases hmark.symm.trans hnone

/-- Behind the first bare mark nothing is read. -/
theorem uncommented_append_of_not_free (h : ¬ Free isCommentMark state text) (rest : List Char) :
    uncommented state (text ++ rest) = uncommented state text := by
  induction text generalizing state with
  | nil => exact absurd trivial h
  | cons c text ih =>
    rw [List.cons_append, uncommented, uncommented]
    by_cases hmark : (!state.covers c && isCommentMark c) = true
    · rw [if_pos hmark, if_pos hmark]
    · rw [if_neg hmark, if_neg hmark]
      have htext : ¬ Free isCommentMark (state.next c) text := by
        intro hfree
        apply h
        refine ⟨?_, hfree⟩
        simpa using hmark
      rw [ih htext]

theorem uncommented_mark (hmark : isCommentMark mark = true) (rest : List Char) :
    uncommented outside (mark :: rest) = [] := by
  have hbare : outside.covers mark = false := by
    rcases (by simpa [isCommentMark] using hmark : mark = ';' ∨ mark = '#') with rfl | rfl <;> rfl
  rw [uncommented, hbare, hmark]
  rfl

theorem uncommented_append_comment (h : Commented line ∨ outside.after line = outside)
    (hmark : isCommentMark mark = true) (comment : List Char) :
    uncommented outside (line ++ mark :: comment) = uncommented outside line := by
  by_cases hfree : Free isCommentMark outside line
  · have hafter : outside.after line = outside := by
      rcases h with h | h
      · exact absurd hfree h.not_free
      · exact h
    rw [uncommented_append hfree, hafter, uncommented_mark hmark, uncommented_of_free hfree,
      List.append_nil]
  · exact uncommented_append_of_not_free hfree _

theorem ofLine_congr
    (h : Text.trim (uncommented outside line) = Text.trim (uncommented outside raw)) :
    Statement.ofLine line = Statement.ofLine raw := by
  unfold Statement.ofLine
  rw [h]

theorem ofLine_append_comment (h : Commented line ∨ outside.after line = outside)
    (hmark : isCommentMark mark = true) (comment : List Char) :
    Statement.ofLine (line ++ mark :: comment) = Statement.ofLine line := by
  apply ofLine_congr
  rw [uncommented_append_comment h hmark]

theorem ofLine_comment (hmark : isCommentMark mark = true) (comment : List Char) :
    Statement.ofLine (mark :: comment) = ⟨none, none⟩ := by
  rw [← List.nil_append (mark :: comment), ofLine_append_comment (.inr rfl) hmark]
  rfl

/-- A carriage return at the end says nothing, whether or not a span is open there. -/
@[simp] theorem ofLine_append_return (raw : List Char) :
    Statement.ofLine (raw ++ ['\r']) = Statement.ofLine raw := by
  apply ofLine_congr
  by_cases hfree : Free isCommentMark outside raw
  · have hreturn : uncommented (outside.after raw) ['\r'] = ['\r'] :=
      uncommented_of_free ⟨fun _ => rfl, trivial⟩
    rw [uncommented_append hfree, hreturn, uncommented_of_free hfree,
      Text.trim_append_of_isBlank rfl]
  · rw [uncommented_append_of_not_free hfree]

@[simp] theorem ofLine_dropReturn (raw : List Char) :
    Statement.ofLine (Text.dropReturn raw) = Statement.ofLine raw := by
  unfold Text.dropReturn
  split
  · rename_i hlast
    obtain ⟨front, rfl⟩ := List.getLast?_eq_some_iff.mp hlast
    rw [List.dropLast_concat, ofLine_append_return]
  · rfl

end Source

namespace Program

open Source (Statement Commented)
open Source.Quotation

theorem statements_append_feed {line : List Char} (hline : '\n' ∉ line) (rest : List Char) :
    statements (Text.lines (line ++ '\n' :: rest)) =
      Statement.ofLine line :: statements (Text.lines rest) := by
  rw [List.append_cons, Text.lines_append (Text.ended_append_feed line),
    Text.lines_append_feed hline]
  simp [statements]

theorem statements_unended {line : List Char} (hline : '\n' ∉ line) (hne : line ≠ []) :
    statements (Text.lines line) = [Statement.ofLine line] := by
  rw [Text.lines_unended hline hne]
  simp [statements]

/-- What can follow a line: nothing, or its end and more lines. -/
def Follows (after : String) : Prop :=
  after = "" ∨ ∃ rest, after = "\n" ++ rest ∨ after = "\r\n" ++ rest

/-- Of a line counts only what it says; what follows it is read in the same way. -/
theorem exists_statements_append {after : String} (h : Follows after) :
    ∃ more, ∀ line, '\n' ∉ line → line ++ after.toList ≠ [] →
      statements (Text.lines (line ++ after.toList)) = Statement.ofLine line :: more := by
  rcases h with rfl | ⟨rest, rfl | rfl⟩
  · refine ⟨[], ?_⟩
    intro line hline hne
    have hempty : "".toList = [] := rfl
    rw [hempty, List.append_nil] at hne ⊢
    exact statements_unended hline hne
  · refine ⟨statements (Text.lines rest.toList), ?_⟩
    intro line hline _
    have hfeed : ("\n" ++ rest).toList = '\n' :: rest.toList := String.toList_append
    rw [hfeed, statements_append_feed hline]
  · refine ⟨statements (Text.lines rest.toList), ?_⟩
    intro line hline _
    have hfeed : ("\r\n" ++ rest).toList = '\r' :: '\n' :: rest.toList := String.toList_append
    have hreturn : '\n' ∉ line ++ ['\r'] := by simpa using hline
    rw [hfeed, List.append_cons, statements_append_feed hreturn, Source.ofLine_append_return]

/-- A line at the end that says nothing changes nothing. -/
theorem addLines_append_silent {raw : List Char} (h : Statement.ofLine raw = ⟨none, none⟩)
    (program : Program) (line : Nat) (lines : List (List Char)) :
    program.addLines line (lines ++ [raw]) = program.addLines line lines := by
  cases hlines : program.addLines line lines with
  | error duplicate => exact addLines_append_of_error hlines _
  | ok after =>
    have hadd : after.addLine (line + lines.length) (Text.dropReturn raw) = .ok after := by
      apply addLine_eq_ok_iff.mpr
      rw [Source.ofLine_dropReturn, h]
      exact ⟨fun _ hname => absurd hname (Option.not_mem_none _), rfl⟩
    rw [addLines_append_of_ok hlines, addLines, hadd]
    rfl

theorem sameOutcome_of_statements {front here there : List Char} (hfront : Text.Ended front)
    (h : statements (Text.lines here) = statements (Text.lines there)) (program : Program)
    (line : Nat) : SameOutcome (program.addLines line (Text.lines (front ++ here)))
      (program.addLines line (Text.lines (front ++ there))) := by
  apply (SameContent.refl program).addLines
  rw [Text.lines_append hfront, Text.lines_append hfront, statements, List.map_append, statements,
    List.map_append]
  exact congrArg _ h

/-- A comment may be put behind any line of a source that has a comment already or leaves no span
open, and the source still comes to the same. -/
theorem assemble_comment {before line after comment : String} {mark : Char}
    (hbefore : before = "" ∨ ∃ text, before = text ++ "\n") (hline : '\n' ∉ line.toList)
    (hafter : Follows after)
    (hclosed : Commented line.toList ∨ outside.after line.toList = outside)
    (hmark : mark = ';' ∨ mark = '#') (hcomment : '\n' ∉ comment.toList) (name : String) :
    SameOutcome (assemble name (before ++ line ++ after))
      (assemble name (before ++ (line ++ String.singleton mark ++ comment) ++ after)) := by
  have hopens : Source.isCommentMark mark = true := by
    rcases hmark with rfl | rfl <;> rfl
  have hfeed : '\n' ∉ mark :: comment.toList := by
    rcases hmark with rfl | rfl <;> simpa using hcomment
  have hended := ended_toList hbefore
  have hshort : (before ++ line ++ after).toList =
      before.toList ++ (line.toList ++ after.toList) := by
    simp
  have hlong : (before ++ (line ++ String.singleton mark ++ comment) ++ after).toList =
      before.toList ++ ((line.toList ++ mark :: comment.toList) ++ after.toList) := by
    simp
  unfold assemble
  rw [hshort, hlong]
  by_cases hempty : line.toList ++ after.toList = []
  · -- The source ends where the line would begin, so the comment is a line of its own.
    obtain ⟨hnoLine, hnoAfter⟩ := List.append_eq_nil_iff.mp hempty
    rw [hnoLine, hnoAfter, List.append_nil, List.append_nil, List.append_nil, List.nil_append,
      Text.lines_append hended, Text.lines_unended hfeed (List.cons_ne_nil _ _),
      addLines_append_silent (Source.ofLine_comment hopens _)]
    exact SameOutcome.refl _
  · obtain ⟨more, hmore⟩ := exists_statements_append hafter
    have hfeeds : '\n' ∉ line.toList ++ mark :: comment.toList := by
      intro h
      rcases List.mem_append.mp h with h | h
      · exact hline h
      · exact hfeed h
    apply sameOutcome_of_statements hended
    rw [hmore _ hline hempty, hmore _ hfeeds (by simp), Source.ofLine_append_comment hclosed hopens]

/-- A comment with a label and an open quote, behind a line whose quoted mark begins no comment; and
one behind the line that repeats a label. -/
theorem assemble_comment_quotes :
    (∃ program,
      assemble "p" ("" ++ ("a: LOAD r0, ';'" ++ String.singleton '#' ++ " a: it's") ++ "\nJMP a") =
        .ok program ∧ program.resolve? "a" = some 0 ∧
      program.actions = [⟨"LOAD", ["r0", "';'"]⟩, ⟨"JMP", ["a"]⟩]) ∧
    ∃ duplicate, assemble "p" ("a:\n" ++ ("a: ; '" ++ String.singleton ';' ++ "b:") ++ "\r\nb:") =
        .error duplicate ∧ duplicate.label = "a" ∧ duplicate.firstLine = 1 ∧
      duplicate.location.line = 2 := by
  constructor
  · have hshort : assemble "p" ("" ++ "a: LOAD r0, ';'" ++ "\nJMP a") =
        .ok ⟨"p", #[⟨"LOAD", ["r0", "';'"], 1, "a: LOAD r0, ';'"⟩, ⟨"JMP", ["a"], 2, "JMP a"⟩],
          [⟨"a", 0, 1⟩]⟩ := rfl
    have hafter : Follows "\nJMP a" := .inr ⟨"JMP a", .inl rfl⟩
    have h := assemble_comment (.inl rfl) (by decide : '\n' ∉ "a: LOAD r0, ';'".toList) hafter
      (.inr rfl) (.inr rfl) (by decide : '\n' ∉ " a: it's".toList) "p"
    rw [hshort] at h
    cases hlong : assemble "p"
        ("" ++ ("a: LOAD r0, ';'" ++ String.singleton '#' ++ " a: it's") ++ "\nJMP a") with
    | error duplicate =>
      rw [hlong] at h
      exact h.elim
    | ok program =>
      rw [hlong] at h
      refine ⟨program, rfl, ?_, h.actions.symm⟩
      rw [resolve?, findLabel?, ← h.labels]
      rfl
  · have hshort : assemble "p" ("a:\n" ++ "a: ; '" ++ "\r\nb:") =
        .error ⟨"a", 1, ⟨"p", 2, 1⟩⟩ := rfl
    have hcommented : Commented "a: ; '".toList :=
      ⟨['a', ':', ' '], ';', [' ', '\''], rfl, rfl, rfl⟩
    have hbefore : "a:\n" = "" ∨ ∃ text, "a:\n" = text ++ "\n" := .inr ⟨"a:", rfl⟩
    have hafter : Follows "\r\nb:" := .inr ⟨"b:", .inr rfl⟩
    have h := assemble_comment hbefore (by decide : '\n' ∉ "a: ; '".toList) hafter
      (.inl hcommented) (.inl rfl) (by decide : '\n' ∉ "b:".toList) "p"
    rw [hshort] at h
    cases hlong : assemble "p"
        ("a:\n" ++ ("a: ; '" ++ String.singleton ';' ++ "b:") ++ "\r\nb:") with
    | ok program =>
      rw [hlong] at h
      exact h.elim
    | error duplicate =>
      rw [hlong] at h
      exact ⟨duplicate, rfl, h.1.symm, h.2.1.symm, h.2.2.symm⟩

end Program

end RegisterMachine
