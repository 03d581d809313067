import Mathlib.Data.List.DropRight
import RegisterMachine.Proofs.Text
import RegisterMachine.Proofs.Wording
import RegisterMachine.Report.Basic

/-!
How a report looks. Its lines are a heading, the place, the source line behind its number, the
carets and a hint. The number takes four columns, or more if it has more digits, and the carets
always leave room for four. So they stand under the reported column as long as the number has no
more digits than that.
-/

namespace RegisterMachine

namespace Text

@[simp] theorem length_repeated (count : Nat) (c : Char) : (repeated count c).length = count := by
  simp [repeated]

@[simp] theorem length_padStart (width : Nat) (fill : Char) (text : String) :
    (padStart width fill text).length = max width text.length := by
  simp only [padStart, String.length_append, length_repeated]
  omega

theorem length_toString_le_iff (n : Nat) : (toString n).length ≤ 4 ↔ n < 10000 := by
  rw [Nat.toString_eq_ofList_toDigits, String.length_ofList]
  exact Nat.length_toDigits_le_iff (by decide) (by decide)

theorem isPrefix_dropReturns (line : List Char) : dropReturns line <+: line :=
  List.rdropWhile_prefix _ _

/-- Line feeds in front of a text move its first line down. -/
theorem getElem?_lines_feeds (count : Nat) (rest : List Char) :
    (lines (List.replicate count '\n' ++ rest))[count]? = (lines rest)[0]? := by
  induction count with
  | zero => rfl
  | succ count ih => exact ih

end Text

open Text (Lacks lacks_append)

namespace Report

variable {location : Location} {source : String} {raw : List Char}

/-- The tag and the message, and the line with the place. -/
def heading (report : Report) (coloured : Bool) (location : Location) : String :=
  Style.paint coloured (tagStyles report.severity) ("[" ++ report.severity.text ++ "]") ++ " " ++
    Style.paint coloured [.bold] report.message ++ "\n" ++ " --> " ++ location.text ++ "\n"

def hint (report : Report) (coloured : Bool) : String :=
  (report.suggestion.map fun hint =>
    Style.paint coloured [.cyan] ("Suggestion: " ++ hint) ++ "\n").getD ""

/-- What stands in front of a source line. -/
def gutter (number : Nat) : String :=
  " " ++ Text.padStart 4 ' ' (toString number) ++ " | "

/-- What stands in front of the carets under a column. -/
def indent (column : Nat) : String :=
  "      | " ++ Text.repeated (column - 1) ' '

theorem render_eq (report : Report) (hlocation : report.location = some location)
    (hsource : (Text.lines source.toList)[location.line - 1]? = some raw) (coloured : Bool) :
    report.render coloured source =
      report.heading coloured location ++ snippetLine location raw ++ "\n" ++
        Style.paint coloured [.green] (caretLine location report.token) ++ "\n" ++
        report.hint coloured := by
  simp only [render, renderLocation, heading, hint, hlocation, hsource, Option.map_some,
    Option.getD_some, String.append_assoc]

theorem snippetLine_eq (location : Location) (raw : List Char) :
    snippetLine location raw =
      gutter location.line ++ String.ofList (Text.dropReturns raw) :=
  rfl

theorem caretLine_eq (location : Location) (token : Option String) :
    caretLine location token =
      indent location.column ++ Text.repeated (caretCount token) '^' :=
  rfl

theorem caretCount_eq (token : Option String) :
    caretCount token = max 1 ((token.map String.length).getD 1) := by
  cases token with
  | none => rfl
  | some text =>
    simp only [caretCount, Option.map_some, Option.getD_some]
    split <;> omega

@[simp] theorem length_gutter (number : Nat) :
    (gutter number).length = max 4 (toString number).length + 4 := by
  rw [gutter, String.length_append, String.length_append, Text.length_padStart]
  change 1 + max 4 (toString number).length + 3 = _
  omega

@[simp] theorem length_indent (column : Nat) : (indent column).length = 8 + (column - 1) := by
  rw [indent, String.length_append, Text.length_repeated]
  rfl

theorem lacks_feed_gutter (number : Nat) : Lacks '\n' (gutter number) := by
  have hblanks := Text.lacks_repeated (by decide : '\n' ≠ ' ') (4 - (toString number).length)
  have hdigits : Lacks '\n' (toString number) := Text.lacks_toString rfl number
  simp only [gutter, Text.padStart, lacks_append, hblanks, hdigits, and_true]
  decide

theorem lacks_indent {c : Char} (hblank : c ≠ ' ') (hbar : c ≠ '|') (column : Nat) :
    Lacks c (indent column) := by
  rw [indent, lacks_append]
  refine ⟨?_, Text.lacks_repeated hblank _⟩
  intro hmem
  have hcases : c = ' ' ∨ c = '|' ∨ c = ' ' := by simpa using hmem
  rcases hcases with rfl | rfl | rfl
  · exact hblank rfl
  · exact hbar rfl
  · exact hblank rfl

/-- The character in the reported column stands behind the gutter and the characters in front of
it. -/
theorem getElem?_snippetLine
    (h : location.column - 1 < (Text.dropReturns raw).length) :
    (snippetLine location raw).toList[(gutter location.line).length + (location.column - 1)]? =
      raw[location.column - 1]? := by
  obtain ⟨returns, hraw⟩ := Text.isPrefix_dropReturns raw
  rw [snippetLine_eq, String.toList_append, String.toList_ofList, ← String.length_toList,
    List.getElem?_append_right (Nat.le_add_right _ _), Nat.add_sub_cancel_left]
  nth_rewrite 2 [← hraw]
  rw [List.getElem?_append_left h]

/-- A report shows its source line and the carets on two lines of their own. The carets are as many
as the token has characters, but at least one, and they begin under the reported column exactly if
the number of the line is below 10000; else they are too far to the left by its further digits. -/
theorem carets_under_column_iff (report : Report) (hlocation : report.location = some location)
    (hsource : (Text.lines source.toList)[location.line - 1]? = some raw) :
    ∃ snippet carets, report.render false source =
        report.heading false location ++ snippet ++ "\n" ++ carets ++ "\n" ++ report.hint false ∧
      Lacks '\n' snippet ∧ Lacks '\n' carets ∧
      ∃ number blanks, snippet = number ++ String.ofList (Text.dropReturns raw) ∧
        carets = blanks ++ Text.repeated (max 1 ((report.token.map String.length).getD 1)) '^' ∧
        Lacks '^' blanks ∧
        (location.column - 1 < (Text.dropReturns raw).length →
          snippet.toList[number.length + (location.column - 1)]? = raw[location.column - 1]?) ∧
        number.length + (location.column - 1) =
          blanks.length + ((toString location.line).length - 4) ∧
        (blanks.length = number.length + (location.column - 1) ↔ location.line < 10000) := by
  have hfeed : '\n' ∉ raw := Text.not_mem_of_mem_lines (List.mem_of_getElem? hsource)
  have hnumber := length_gutter location.line
  have hblanks := length_indent location.column
  refine ⟨_, _, report.render_eq hlocation hsource false, ?_, ?_, gutter location.line,
    indent location.column, rfl, ?_, lacks_indent (by decide) (by decide) _, getElem?_snippetLine,
    by omega, ?_⟩
  · rw [snippetLine_eq, lacks_append]
    refine ⟨lacks_feed_gutter _, ?_⟩
    rw [Lacks, String.toList_ofList]
    exact fun hmem => hfeed ((Text.isPrefix_dropReturns raw).subset hmem)
  · change Lacks '\n' (caretLine location report.token)
    rw [caretLine_eq, lacks_append]
    exact ⟨lacks_indent (by decide) (by decide) _, Text.lacks_repeated (by decide) _⟩
  · rw [← caretCount_eq]
    rfl
  · rw [← Text.length_toString_le_iff]
    omega

/-- Two carets under a register on the second line. -/
theorem carets_under_register : ∃ snippet carets number blanks,
    (Report.mk "m" .error (some ⟨"f", 2, 10⟩) none (some "r4") none).render false
        "; test\n    LOAD r4, 1\n" =
      "[ERROR] m\n --> f:2:10\n" ++ snippet ++ "\n" ++ carets ++ "\n" ∧
    snippet = number ++ "    LOAD r4, 1" ∧ carets = blanks ++ "^^" ∧ Lacks '^' blanks ∧
    blanks.length = number.length + 9 := by
  have hsource : (Text.lines "; test\n    LOAD r4, 1\n".toList)[1]? =
      some "    LOAD r4, 1".toList := rfl
  obtain ⟨snippet, carets, hrender, _, _, number, blanks, hsnippet, hcarets, hlacks, _, _,
    hunder⟩ :=
    carets_under_column_iff ⟨"m", .error, some ⟨"f", 2, 10⟩, none, some "r4", none⟩ rfl hsource
  exact ⟨snippet, carets, number, blanks, hrender.trans (String.append_empty ..), hsnippet, hcarets,
    hlacks, hunder.mpr (by decide)⟩

/-- On line 10000 the caret for column 5 stands one to the left of it. -/
theorem caret_left_of_column : ∃ (report : Report) (source : String),
    report.location = some ⟨"f", 10000, 5⟩ ∧ report.token = some "1" ∧
    (Text.lines source.toList)[9999]? = some "INC 1".toList ∧
    report.render false source =
      "[ERROR] m\n --> f:10000:5\n" ++ " 10000 | INC 1" ++ "\n" ++ "      |     ^" ++ "\n" ∧
    " 10000 | INC 1".toList = " 10000 | INC ".toList ++ ['1'] ∧
    "      |     ^".toList = "      |     ".toList ++ ['^'] ∧
    " 10000 | INC ".length = "      |     ".length + 1 := by
  have hsource : (Text.lines (String.ofList (List.replicate 9999 '\n' ++
      "INC 1".toList)).toList)[9999]? = some "INC 1".toList := by
    rw [String.toList_ofList, Text.getElem?_lines_feeds]
    rfl
  have hrender := render_eq ⟨"m", .error, some ⟨"f", 10000, 5⟩, none, some "1", none⟩ rfl hsource
    false
  exact ⟨_, _, rfl, rfl, hsource, hrender, rfl, rfl, rfl⟩

end Report

end RegisterMachine
