import RegisterMachine.Proofs.Outline
import RegisterMachine.Proofs.Statement

/-!
The label table against the lines of a source. A line defines the label its text begins with. The
table holds every definition with the number of instructions in front of its line, and assembling
fails exactly when two lines define one label: at the first line that repeats an earlier one.
-/

namespace RegisterMachine

namespace Text

/-- The line of this number, counted from one, without a carriage return at its end. -/
def lineAt? (source : String) : Nat → Option (List Char)
  | 0 => none
  | index + 1 => (lines source.toList)[index]?.map dropReturn

/-- The lines of a source from this number on. -/
def Remaining (source : String) (number : Nat) (rest : List (List Char)) : Prop :=
  ∃ front, lines source.toList = front ++ rest ∧ number = front.length + 1

theorem Remaining.cons {source : String} {number : Nat} {raw : List Char} {rest : List (List Char)}
    (h : Remaining source number (raw :: rest)) :
    lineAt? source number = some (dropReturn raw) ∧ Remaining source (number + 1) rest := by
  obtain ⟨front, hlines, rfl⟩ := h
  constructor
  · simp [lineAt?, hlines]
  · refine ⟨front ++ [raw], ?_, by simp⟩
    rw [hlines, List.append_assoc]
    rfl

theorem le_of_lineAt? {source : String} {number : Nat} {raw : List Char}
    (h : lineAt? source number = some raw) : number ≤ (lines source.toList).length := by
  cases number with
  | zero => cases h
  | succ index =>
    obtain ⟨line, hline, _⟩ := Option.map_eq_some_iff.mp h
    exact (List.getElem?_eq_some_iff.mp hline).1

/-- The first character that is not blank stands in this column, counted from one. -/
def FirstSolid (text : List Char) (column : Nat) : Prop :=
  ∃ blanks rest, text = blanks ++ rest ∧ (∀ c ∈ blanks, isBlank c = true) ∧ StartsSolid rest ∧
    column = blanks.length + 1

/-- Blanks hide no text that begins with another character. -/
theorem indexOf?_blanks {blanks needle : List Char} (hblanks : ∀ c ∈ blanks, isBlank c = true)
    (hneedle : StartsSolid needle) (rest : List Char) :
    indexOf? needle (blanks ++ (needle ++ rest)) = some blanks.length := by
  obtain ⟨c, hhead, hc⟩ := hneedle
  obtain ⟨tail, rfl⟩ := List.head?_eq_some_iff.mp hhead
  induction blanks with
  | nil => simp [indexOf?]
  | cons blank blanks ih =>
    obtain ⟨hblank, hblanks⟩ := List.forall_mem_cons.mp hblanks
    have hne : c ≠ blank := by
      rintro rfl
      cases hc.symm.trans hblank
    rw [List.cons_append, indexOf?, ih hblanks]
    simp [hne]

end Text

theorem Location.ofToken_found {file raw token : String} {line index : Nat} (hne : token ≠ "")
    (hfound : Text.indexOf? token.toList raw.toList = some index) :
    ofToken file line raw (some token) = ⟨file, line, index + 1⟩ := by
  have hkept : (some token).filter (!·.isEmpty) = some token := by simp [hne]
  simp only [ofToken, hkept, Option.bind_some, hfound, Option.some_or, Option.getD_some]

namespace Source

open Quotation

/-- The label of a line stands where the line first is not blank. -/
theorem firstSolid_of_label {raw : List Char} {label : String}
    (h : (Statement.ofLine raw).label = some label) (file : String) (line : Nat) :
    Text.FirstSolid raw (Location.ofToken file line (String.ofList raw) (some label)).column := by
  obtain ⟨hname, tail, htail⟩ := label_ofLine_iff.mp h
  obtain ⟨more, hmore⟩ := isPrefix_uncommented outside raw
  obtain ⟨blanks, back, hblanks, _, htext⟩ := Text.exists_trim (uncommented outside raw)
  have hsolid := startsSolid_of_isIdentifier hname
  have hraw : raw = blanks ++ (label.toList ++ (':' :: tail ++ back ++ more)) := by
    rw [← hmore, htext, ← htail]
    simp
  have hne : label ≠ "" := by
    rintro rfl
    cases hname
  have hfound := Text.indexOf?_blanks hblanks hsolid (':' :: tail ++ back ++ more)
  rw [← hraw, ← String.toList_ofList (l := raw)] at hfound
  rw [Location.ofToken_found hne hfound]
  exact ⟨blanks, _, hraw, hblanks, hsolid.append _, rfl⟩

end Source

namespace Program

open Source (Statement)

variable {source : String} {program after : Program} {line number : Nat} {raw : List Char}

/-- The text of the line, without comment and outer blanks, begins with the label and a colon. -/
def Defines (source : String) (number : Nat) (label : String) : Prop :=
  ∃ raw, Text.lineAt? source number = some raw ∧ Source.isIdentifier label.toList = true ∧
    label.toList ++ [':'] <+: Text.trim (Source.uncommented .outside raw)

theorem defines_iff {label : String} (h : Text.lineAt? source number = some raw) :
    Defines source number label ↔ (Statement.ofLine raw).label = some label := by
  rw [Source.label_ofLine_iff]
  constructor
  · rintro ⟨other, hother, hlabel⟩
    cases h.symm.trans hother
    exact hlabel
  · intro hlabel
    exact ⟨raw, h, hlabel⟩

/-- The number of instructions on lines in front of this one. -/
def countBefore (program : Program) (line : Nat) : Nat :=
  program.instructions.toList.countP (·.line < line)

section
variable {text : String} {statement : Statement}

theorem instructions_extended : (program.extended line text statement).instructions.toList =
    program.instructions.toList ++
      statement.action.toList.map fun action => ⟨action.opcode, action.operands, line, text⟩ := by
  obtain ⟨label, action⟩ := statement
  cases label <;> cases action <;> simp [extended, addAction, addLabel]

/-- What a line adds comes behind everything in front of the line. -/
theorem countBefore_extended (h : number ≤ line) :
    (program.extended line text statement).countBefore number = program.countBefore number := by
  have hline : ¬ line < number := by omega
  unfold countBefore
  rw [instructions_extended, List.countP_append]
  cases statement.action <;> simp [hline]

theorem countBefore_eq_size (h : program.Ordered line) :
    program.countBefore line = program.size := by
  unfold countBefore size
  rw [← Array.length_toList, List.countP_eq_length]
  intro instruction hinstruction
  exact decide_eq_true (h.line_lt instruction hinstruction)

end

/-- What holds of a program that the lines of a source in front of `line` make up. -/
structure Recorded (source : String) (program : Program) (line : Nat) : Prop where
  ordered : program.Ordered line
  mem_labels : ∀ entry, entry ∈ program.labels ↔ entry.line < line ∧
    Defines source entry.line entry.name ∧ entry.target = program.countBefore entry.line
  once : ∀ label first second, first < second → second < line → Defines source first label →
    ¬ Defines source second label
  raw : ∀ instruction ∈ program.instructions.toList,
    Text.lineAt? source instruction.line = some instruction.raw.toList

theorem recorded_empty (source name : String) : Recorded source (empty name) 1 where
  ordered := empty_ordered name 1
  mem_labels := by
    intro entry
    constructor
    · intro hentry
      cases hentry
    · rintro ⟨hline, ⟨raw, hraw, _⟩, _⟩
      obtain hzero : entry.line = 0 := by omega
      rw [hzero] at hraw
      cases hraw
  once := by
    intro label first second hfirst hsecond
    omega
  raw := by
    intro instruction hinstruction
    cases hinstruction

theorem Recorded.defines_of_mem (h : Recorded source program line) {entry : Label}
    (hentry : entry ∈ program.labels) :
    entry.line < line ∧ Defines source entry.line entry.name :=
  ⟨((h.mem_labels entry).mp hentry).1, ((h.mem_labels entry).mp hentry).2.1⟩

/-- A label that is not in the table is not defined yet. -/
theorem Recorded.not_defines (h : Recorded source program line) {label : String}
    (hfresh : program.findLabel? label = none) (hnumber : number < line) :
    ¬ Defines source number label := by
  intro hdefines
  have hentry := (h.mem_labels ⟨label, program.countBefore number, number⟩).mpr
    ⟨hnumber, hdefines, rfl⟩
  exact findLabel?_eq_none_iff.mp hfresh _ hentry rfl

theorem Recorded.extended (h : Recorded source program line)
    (hraw : Text.lineAt? source line = some raw)
    (hfresh : ∀ name ∈ (Statement.ofLine raw).label, program.findLabel? name = none) :
    Recorded source (program.extended line (String.ofList raw) (Statement.ofLine raw))
      (line + 1) where
  ordered := h.ordered.addLine (addLine_eq_ok_iff.mpr ⟨hfresh, rfl⟩)
  mem_labels := by
    intro entry
    rw [mem_labels_extended, h.mem_labels]
    constructor
    · rintro (⟨hline, hdefines, htarget⟩ | ⟨name, hname, rfl⟩)
      · refine ⟨by omega, hdefines, ?_⟩
        rw [countBefore_extended (by omega), htarget]
      · refine ⟨Nat.lt_succ_self line, (defines_iff hraw).mpr hname, ?_⟩
        rw [countBefore_extended (Nat.le_refl line), countBefore_eq_size h.ordered]
    · rintro ⟨hline, hdefines, htarget⟩
      rw [countBefore_extended (by omega)] at htarget
      by_cases hnew : entry.line = line
      · rw [hnew] at hdefines htarget
        rw [countBefore_eq_size h.ordered] at htarget
        refine .inr ⟨entry.name, (defines_iff hraw).mp hdefines, ?_⟩
        rw [← hnew, ← htarget]
      · exact .inl ⟨by omega, hdefines, htarget⟩
  once := by
    intro label first second hfirst hsecond hdefines hagain
    by_cases hnew : second = line
    · rw [hnew] at hfirst hagain
      have hlabel := (defines_iff hraw).mp hagain
      exact h.not_defines (hfresh label hlabel) hfirst hdefines
    · exact h.once label first second hfirst (by omega) hdefines hagain
  raw := by
    intro instruction hinstruction
    rw [instructions_extended] at hinstruction
    rcases List.mem_append.mp hinstruction with hold | hnew
    · exact h.raw instruction hold
    · obtain ⟨action, _, rfl⟩ := List.mem_map.mp hnew
      rw [String.toList_ofList]
      exact hraw

section
variable {rest : List (List Char)} {duplicate : DuplicateLabel}

/-- Lines that are all added leave a record of the whole source. -/
theorem Recorded.addLines (h : Recorded source program line)
    (hrest : Text.Remaining source line rest) (hadd : program.addLines line rest = .ok after) :
    Recorded source after ((Text.lines source.toList).length + 1) := by
  induction rest generalizing program line with
  | nil =>
    cases hadd
    obtain ⟨front, hlines, rfl⟩ := hrest
    rw [hlines, List.append_nil]
    exact h
  | cons raw rest ih =>
    obtain ⟨next, hnext, hmore⟩ := addLines_cons_eq_ok_iff.mp hadd
    obtain ⟨hfresh, rfl⟩ := addLine_eq_ok_iff.mp hnext
    obtain ⟨hraw, htail⟩ := hrest.cons
    exact ih (h.extended hraw hfresh) htail hmore

/-- A failure comes at a line in front of which everything is recorded. -/
theorem Recorded.exists_stop (h : Recorded source program line)
    (hrest : Text.Remaining source line rest)
    (hadd : program.addLines line rest = .error duplicate) :
    ∃ number raw stopped, Recorded source stopped number ∧
      Text.lineAt? source number = some raw ∧ stopped.name = program.name ∧
      stopped.addLine number raw = .error duplicate := by
  induction rest generalizing program line with
  | nil => cases hadd
  | cons raw rest ih =>
    obtain ⟨hraw, htail⟩ := hrest.cons
    rw [Program.addLines] at hadd
    cases hnext : program.addLine line (Text.dropReturn raw) with
    | error found =>
      rw [hnext] at hadd
      cases hadd
      exact ⟨line, _, program, h, hraw, rfl, hnext⟩
    | ok next =>
      rw [hnext] at hadd
      obtain ⟨hfresh, rfl⟩ := addLine_eq_ok_iff.mp hnext
      obtain ⟨number, text, stopped, hstopped, htext, hname, hstop⟩ :=
        ih (h.extended hraw hfresh) htail hadd
      exact ⟨number, text, stopped, hstopped, htext, hname.trans (extended_name _ _ _ _), hstop⟩

end

/-- The first line of a source that defines a label which an earlier line defines. -/
structure Repeats (source : String) (duplicate : DuplicateLabel) : Prop where
  defines : Defines source duplicate.location.line duplicate.label
  earlier : duplicate.firstLine < duplicate.location.line
  defines_first : Defines source duplicate.firstLine duplicate.label
  unique : ∀ line < duplicate.location.line, Defines source line duplicate.label →
    line = duplicate.firstLine
  least : ∀ label first second, first < second → Defines source first label →
    Defines source second label → duplicate.location.line ≤ second
  column : ∃ raw, Text.lineAt? source duplicate.location.line = some raw ∧
    Text.FirstSolid raw duplicate.location.column

theorem Recorded.repeats (h : Recorded source program line)
    (hraw : Text.lineAt? source line = some raw) {duplicate : DuplicateLabel}
    (hadd : program.addLine line raw = .error duplicate) :
    duplicate.location.file = program.name ∧ Repeats source duplicate := by
  obtain ⟨label, entry, hlabel, hfound, rfl⟩ := addLine_eq_error_iff.mp hadd
  obtain rfl : entry.name = label := by simpa using List.find?_some hfound
  obtain ⟨hentry, hfirst⟩ := h.defines_of_mem (List.mem_of_find?_eq_some hfound)
  refine ⟨rfl, ⟨(defines_iff hraw).mpr hlabel, hentry, hfirst, ?_, ?_, ?_⟩⟩
  · intro number hnumber hdefines
    -- Two different lines in front of this one would repeat the label before it does.
    rcases Nat.lt_trichotomy number entry.line with hlt | heq | hgt
    · exact absurd hfirst (h.once _ _ _ hlt hentry hdefines)
    · exact heq
    · exact absurd hdefines (h.once _ _ _ hgt hnumber hfirst)
  · intro label first second hlt hdefines hagain
    by_cases hsecond : second < line
    · exact absurd hagain (h.once label first second hlt hsecond hdefines)
    · exact Nat.le_of_not_lt hsecond
  · exact ⟨raw, hraw, Source.firstSolid_of_label hlabel _ _⟩

section
variable {name : String}

theorem remaining_lines (source : String) :
    Text.Remaining source 1 (Text.lines source.toList) :=
  ⟨[], rfl, rfl⟩

theorem repeats_of_assemble {duplicate : DuplicateLabel}
    (h : assemble name source = .error duplicate) :
    duplicate.location.file = name ∧ Repeats source duplicate := by
  obtain ⟨number, raw, stopped, hstopped, hraw, hname, hstop⟩ :=
    (recorded_empty source name).exists_stop (remaining_lines source) h
  obtain ⟨hfile, hrepeats⟩ := hstopped.repeats hraw hstop
  exact ⟨hfile.trans hname, hrepeats⟩

theorem recorded_of_assemble (h : assemble name source = .ok program) :
    Recorded source program ((Text.lines source.toList).length + 1) :=
  (recorded_empty source name).addLines (remaining_lines source) h

theorem Defines.lt {label : String} (h : Defines source number label) :
    number < (Text.lines source.toList).length + 1 := by
  obtain ⟨raw, hraw, _⟩ := h
  exact Nat.lt_succ_of_le (Text.le_of_lineAt? hraw)

theorem resolve?_iff_defines (h : assemble name source = .ok program) {label : String}
    {place : Nat} : program.resolve? label = some place ↔
      ∃ number, Defines source number label ∧ place = program.countBefore number := by
  have hrecorded := recorded_of_assemble h
  rw [resolve?_eq_some_iff (nodup_places h), places, List.mem_map]
  constructor
  · rintro ⟨entry, hentry, hpair⟩
    cases hpair
    obtain ⟨_, hdefines, htarget⟩ := (hrecorded.mem_labels entry).mp hentry
    exact ⟨entry.line, hdefines, htarget⟩
  · rintro ⟨number, hdefines, rfl⟩
    refine ⟨⟨label, program.countBefore number, number⟩, ?_, rfl⟩
    exact (hrecorded.mem_labels _).mpr ⟨hdefines.lt, hdefines, rfl⟩

/-- Assembling fails exactly when two lines define the same label, and then at the first line that
repeats one. Otherwise the instructions stand in the order of their lines with the texts of these
lines, and a label names the number of instructions in front of the line that defines it. -/
theorem label_table_exact (name source : String) :
    ((∃ duplicate, assemble name source = .error duplicate) ↔
      ∃ label first second, first < second ∧ Defines source first label ∧
        Defines source second label) ∧
    (∀ duplicate, assemble name source = .error duplicate →
      duplicate.location.file = name ∧ Repeats source duplicate) ∧
    ∀ program, assemble name source = .ok program →
      (program.instructions.toList.Pairwise fun first second => first.line < second.line) ∧
      (∀ instruction ∈ program.instructions.toList,
        Text.lineAt? source instruction.line = some instruction.raw.toList) ∧
      ∀ label place, program.resolve? label = some place ↔
        ∃ number, Defines source number label ∧ place = program.countBefore number := by
  refine ⟨⟨?_, ?_⟩, fun duplicate h => repeats_of_assemble h, ?_⟩
  · rintro ⟨duplicate, h⟩
    have hrepeats := (repeats_of_assemble h).2
    exact ⟨_, _, _, hrepeats.earlier, hrepeats.defines_first, hrepeats.defines⟩
  · rintro ⟨label, first, second, hlt, hfirst, hsecond⟩
    cases h : assemble name source with
    | error duplicate => exact ⟨duplicate, rfl⟩
    | ok program =>
      have honce := (recorded_of_assemble h).once label first second hlt hsecond.lt hfirst
      exact absurd hsecond honce
  · intro program h
    have hrecorded := recorded_of_assemble h
    exact ⟨hrecorded.ordered.increasing, hrecorded.raw, fun _ _ => resolve?_iff_defines h⟩

/-- A label repeated behind blanks, with a repeated one in a comment and another further down; and
two labels of one place. -/
theorem label_table_exact_aliases :
    (assemble "p" "a: INC r0\r\nb:\n  b: JMP a ; a:\na:" = .error ⟨"b", 2, ⟨"p", 3, 3⟩⟩ ∧
      Repeats "a: INC r0\r\nb:\n  b: JMP a ; a:\na:" ⟨"b", 2, ⟨"p", 3, 3⟩⟩) ∧
    ∃ program, assemble "p" "INC r0 ; b:\nb:\nc: HALT" = .ok program ∧
      (program.resolve? "b" = some 1 ∧
        ∃ number, Defines "INC r0 ; b:\nb:\nc: HALT" number "b" ∧ 1 = program.countBefore number) ∧
      program.resolve? "c" = some 1 ∧
        ∃ number, Defines "INC r0 ; b:\nb:\nc: HALT" number "c" ∧
          1 = program.countBefore number := by
  have hrepeated : assemble "p" "a: INC r0\r\nb:\n  b: JMP a ; a:\na:" =
      .error ⟨"b", 2, ⟨"p", 3, 3⟩⟩ := rfl
  have hassembled : assemble "p" "INC r0 ; b:\nb:\nc: HALT" =
      .ok ⟨"p", #[⟨"INC", ["r0"], 1, "INC r0 ; b:"⟩, ⟨"HALT", [], 3, "c: HALT"⟩],
        [⟨"b", 1, 2⟩, ⟨"c", 1, 3⟩]⟩ := rfl
  have htable := ((label_table_exact "p" _).2.2 _ hassembled).2.2
  exact ⟨⟨hrepeated, ((label_table_exact "p" _).2.1 _ hrepeated).2⟩, _, hassembled,
    ⟨rfl, (htable "b" 1).mp rfl⟩, rfl, (htable "c" 1).mp rfl⟩

end

end Program

end RegisterMachine
