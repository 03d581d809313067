import RegisterMachine.Proofs.Comment
import RegisterMachine.Proofs.Diagnosis

/-!
Line endings. A source may end its lines with a line feed or with a carriage return and a line feed.
Returns at the end of a line are dropped when the lines are cut, when a line is read and when its
text is trimmed; what no cut drops stays in the text that an instruction keeps of its line. So
assembling commutes with dropping all of them, and the two ways to end lines come to the same.
-/

namespace RegisterMachine

namespace Text

variable {text : List Char} {c : Char} {found other : List (List Char)}

/-- The text with a carriage return in front of each line feed. -/
def withReturns (text : List Char) : List Char :=
  text.flatMap fun c => if c = '\n' then ['\r', '\n'] else [c]

@[simp] theorem withReturns_feed (text : List Char) :
    withReturns ('\n' :: text) = '\r' :: '\n' :: withReturns text :=
  rfl

theorem withReturns_cons (h : c ≠ '\n') (text : List Char) :
    withReturns (c :: text) = c :: withReturns text := by
  rw [withReturns, List.flatMap_cons, if_neg h]
  rfl

theorem head?_withReturns (text : List Char) : (withReturns text).head? ≠ some '\n' := by
  intro hhead
  cases text with
  | nil => cases hhead
  | cons c text =>
    by_cases hfeed : c = '\n'
    · rw [hfeed, withReturns_feed] at hhead
      cases hhead
    · rw [withReturns_cons hfeed] at hhead
      exact hfeed (Option.some.inj hhead)

@[simp] theorem dropReturns_append_return (line : List Char) :
    dropReturns (line ++ ['\r']) = dropReturns line :=
  List.rdropWhile_concat_pos _ _ _ rfl

theorem dropReturns_append (h : c ≠ '\r') (line : List Char) :
    dropReturns (line ++ [c]) = line ++ [c] :=
  List.rdropWhile_concat_neg _ _ _ (by simpa using h)

@[simp] theorem dropReturn_dropReturns (line : List Char) :
    dropReturn (dropReturns line) = dropReturns line := by
  induction line using List.reverseRecOn with
  | nil => rfl
  | append_singleton line c ih =>
    by_cases hreturn : c = '\r'
    · rw [hreturn, dropReturns_append_return, ih]
    · have hlast : (line ++ [c]).getLast? ≠ some '\r' := by simpa using hreturn
      rw [dropReturns_append hreturn, dropReturn, if_neg hlast]

/-- A character in front of a line is dropped with the returns only if it is one of them. -/
theorem dropReturns_cons (c : Char) (line : List Char) : dropReturns (c :: line) =
    if dropReturns line = [] then dropReturns [c] else c :: dropReturns line := by
  induction line using List.reverseRecOn with
  | nil => rfl
  | append_singleton line last ih =>
    rw [← List.cons_append]
    by_cases hreturn : last = '\r'
    · rw [hreturn, dropReturns_append_return, dropReturns_append_return, ih]
    · rw [dropReturns_append hreturn, dropReturns_append hreturn, if_neg (by simp)]
      rfl

theorem map_dropReturns_consFirst (h : found.map dropReturns = other.map dropReturns) (c : Char) :
    (consFirst c found).map dropReturns = (consFirst c other).map dropReturns := by
  cases found with
  | nil =>
    obtain rfl : other = [] := by simpa using h.symm
    rfl
  | cons first rest =>
    cases other with
    | nil => cases h
    | cons second others =>
      obtain ⟨hfirst, hrest⟩ := List.cons.inj h
      rw [consFirst, consFirst, List.map_cons, List.map_cons, dropReturns_cons, hfirst, hrest,
        ← dropReturns_cons]

/-- The lines of a text get no more than returns at their ends. -/
theorem lines_withReturns (text : List Char) :
    (lines (withReturns text)).map dropReturns = (lines text).map dropReturns := by
  fun_induction lines text with
  | case1 => rfl
  | case2 rest ih =>
    rw [withReturns_feed, lines, List.map_cons, List.map_cons, ih]
  | case3 rest ih =>
    -- The return that was there is not at the end any more, and stays in the line.
    rw [withReturns_cons (by decide), withReturns_feed, lines_cons (by decide) (by simp), lines,
      consFirst, List.map_cons, List.map_cons, ih]
    rfl
  | case4 c rest hfeed hreturn ih =>
    have hhead := head?_withReturns rest
    rw [withReturns_cons hfeed, lines_cons hfeed fun _ => hhead]
    exact map_dropReturns_consFirst ih c

theorem FirstSolid.eq_takeWhile {column : Nat} (h : FirstSolid text column) :
    column = (text.takeWhile isBlank).length + 1 := by
  obtain ⟨blanks, rest, rfl, hblanks, ⟨c, hhead, hc⟩, rfl⟩ := h
  obtain ⟨tail, rfl⟩ := List.head?_eq_some_iff.mp hhead
  have hstops : (c :: tail).takeWhile isBlank = [] :=
    List.takeWhile_cons_of_neg (by rw [hc]; exact Bool.false_ne_true)
  rw [List.takeWhile_append_of_pos hblanks, hstops, List.append_nil]

theorem FirstSolid.append {column : Nat} (h : FirstSolid text column) (more : List Char) :
    FirstSolid (text ++ more) column := by
  obtain ⟨blanks, rest, rfl, hblanks, hsolid, rfl⟩ := h
  exact ⟨blanks, rest ++ more, List.append_assoc .., hblanks, hsolid.append more, rfl⟩

end Text

namespace Source

@[simp] theorem ofLine_dropReturns (raw : List Char) :
    Statement.ofLine (Text.dropReturns raw) = Statement.ofLine raw := by
  induction raw using List.reverseRecOn with
  | nil => rfl
  | append_singleton raw c ih =>
    by_cases hreturn : c = '\r'
    · rw [hreturn, Text.dropReturns_append_return, ih, ofLine_append_return]
    · rw [Text.dropReturns_append hreturn]

/-- A label is found in the same place, since it stands in front of the returns. -/
theorem ofToken_dropReturns {raw : List Char} {label : String}
    (h : (Statement.ofLine raw).label = some label) (file : String) (line : Nat) :
    Location.ofToken file line (String.ofList (Text.dropReturns raw)) (some label) =
      Location.ofToken file line (String.ofList raw) (some label) := by
  obtain ⟨returns, hraw⟩ := Text.isPrefix_dropReturns raw
  have hlong := firstSolid_of_label h file line
  rw [← ofLine_dropReturns] at h
  have hshort := (firstSolid_of_label h file line).append returns
  rw [hraw] at hshort
  exact congrArg (Location.mk file line) (hshort.eq_takeWhile.trans hlong.eq_takeWhile.symm)

end Source

namespace Program

def withoutReturns (program : Program) : Program :=
  { program with
    instructions := program.instructions.map fun instruction =>
      { instruction with
        raw := String.ofList (Text.dropReturns instruction.raw.toList) } }

theorem withoutReturns_extended (program : Program) (line : Nat) (raw : List Char)
    (statement : Source.Statement) :
    (program.extended line (String.ofList raw) statement).withoutReturns =
      program.withoutReturns.extended line (String.ofList (Text.dropReturns raw)) statement := by
  obtain ⟨label, action⟩ := statement
  cases label <;> cases action <;>
    simp [withoutReturns, extended, addAction, addLabel, size]

theorem map_addLine (program : Program) (line : Nat) (raw : List Char) :
    (program.addLine line raw).map withoutReturns =
      program.withoutReturns.addLine line (Text.dropReturns raw) := by
  symm
  cases hadd : program.addLine line raw with
  | ok after =>
    obtain ⟨hfresh, rfl⟩ := addLine_eq_ok_iff.mp hadd
    apply addLine_eq_ok_iff.mpr
    rw [Source.ofLine_dropReturns]
    exact ⟨hfresh, (program.withoutReturns_extended line raw _).symm⟩
  | error duplicate =>
    obtain ⟨name, found, hname, hfound, rfl⟩ := addLine_eq_error_iff.mp hadd
    apply addLine_eq_error_iff.mpr
    refine ⟨name, found, ?_, hfound, ?_⟩
    · rw [Source.ofLine_dropReturns, hname]
    · rw [Source.ofToken_dropReturns hname]
      rfl

/-- Assembling lines and dropping the returns at their ends can be done in either order. -/
theorem map_addLines (program : Program) (line : Nat) (lines : List (List Char)) :
    (program.addLines line lines).map withoutReturns =
      program.withoutReturns.addLines line (lines.map Text.dropReturns) := by
  induction lines generalizing program line with
  | nil => rfl
  | cons raw lines ih =>
    have hstep := program.map_addLine line (Text.dropReturn raw)
    rw [Text.dropReturns_dropReturn] at hstep
    rw [List.map_cons, addLines, addLines, Text.dropReturn_dropReturns, ← hstep]
    cases program.addLine line (Text.dropReturn raw) with
    | ok next => exact ih next (line + 1)
    | error duplicate => rfl

/-- A source whose lines end with a carriage return and a line feed comes to the same as with line
feeds alone: to a program with the same labels and the same instructions, whose lines differ by
returns at their ends only, or to the same label, lines and column. -/
theorem assemble_withReturns (name source : String) :
    (assemble name (String.ofList (Text.withReturns source.toList))).map withoutReturns =
      (assemble name source).map withoutReturns := by
  unfold assemble
  rw [map_addLines, map_addLines, String.toList_ofList, Text.lines_withReturns]

-- Of three returns one is cut off with the line and one when it is read; the third is kept.
example : (assemble "p" "INC r0\r\r\r\n").map (·.instructions) =
    .ok #[⟨"INC", ["r0"], 1, "INC r0\r"⟩] :=
  rfl

end Program

end RegisterMachine
