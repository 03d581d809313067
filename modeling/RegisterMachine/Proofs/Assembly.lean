import RegisterMachine.Program.Assembly

/-!
The shape of an assembled program. Its instructions stand in the order of their lines, one line
each, and no label points past the end. Assembling adds the statements of the lines one by one, and
goes on as long as their labels are new.
-/

namespace RegisterMachine.Program

variable {program after : Program} {line : Nat}

/-- What holds of a program that the lines in front of `line` make up. -/
structure Ordered (program : Program) (line : Nat) : Prop where
  target_le : ∀ label ∈ program.labels, label.target ≤ program.size
  line_lt : ∀ instruction ∈ program.instructions.toList, instruction.line < line
  increasing : program.instructions.toList.Pairwise fun first second => first.line < second.line

theorem empty_ordered (name : String) (line : Nat) : (empty name).Ordered line := by
  constructor <;> simp [empty]

theorem Ordered.addLabel (h : program.Ordered line) (name : String) (number : Nat) :
    (program.addLabel name number).Ordered line := by
  refine ⟨?_, h.line_lt, h.increasing⟩
  intro label hlabel
  rcases List.mem_append.mp hlabel with hlabel | hlabel
  · exact h.target_le label hlabel
  · rw [List.mem_singleton.mp hlabel]
    exact Nat.le_refl _

theorem Ordered.addAction (h : program.Ordered line) (raw : String)
    (action : Option Source.Action) :
    (program.addAction line raw action).Ordered (line + 1) := by
  cases action with
  | none =>
    refine ⟨h.target_le, ?_, h.increasing⟩
    intro instruction hinstruction
    exact Nat.lt_succ_of_lt (h.line_lt instruction hinstruction)
  | some action =>
    refine ⟨?_, ?_, ?_⟩
    · intro label hlabel
      have htarget := h.target_le label hlabel
      simp only [Program.addAction, size, Array.size_push] at htarget ⊢
      omega
    · intro instruction hinstruction
      simp only [Program.addAction, Array.toList_push, List.mem_append, List.mem_singleton]
        at hinstruction
      rcases hinstruction with hinstruction | rfl
      · exact Nat.lt_succ_of_lt (h.line_lt instruction hinstruction)
      · exact Nat.lt_succ_self line
    · simp only [Program.addAction, Array.toList_push, List.pairwise_append,
        List.pairwise_singleton, List.mem_singleton, forall_eq, true_and]
      exact ⟨h.increasing, h.line_lt⟩

theorem Ordered.addLine (h : program.Ordered line) {raw : List Char}
    (hadd : program.addLine line raw = .ok after) : after.Ordered (line + 1) := by
  unfold Program.addLine at hadd
  simp only at hadd
  split at hadd
  · cases hadd
    exact h.addAction _ _
  · split at hadd
    · cases hadd
    · cases hadd
      exact (h.addLabel _ _).addAction _ _

theorem Ordered.addLines (h : program.Ordered line) {lines : List (List Char)}
    (hadd : program.addLines line lines = .ok after) : after.Ordered (line + lines.length) := by
  induction lines generalizing program line with
  | nil =>
    cases hadd
    exact h
  | cons raw rest ih =>
    simp only [Program.addLines] at hadd
    split at hadd
    · rename_i next hnext
      have hrest := ih (h.addLine hnext) hadd
      simpa [Nat.add_assoc, Nat.add_comm 1] using hrest
    · cases hadd

theorem ordered_of_assemble {name source : String} (h : assemble name source = .ok program) :
    program.Ordered (1 + (Text.lines source.toList).length) :=
  (empty_ordered name 1).addLines h

theorem target_le_of_resolve? (htarget : ∀ label ∈ program.labels, label.target ≤ program.size)
    {name : String} {target : Nat} (h : program.resolve? name = some target) :
    target ≤ program.size := by
  obtain ⟨label, hlabel, rfl⟩ := Option.map_eq_some_iff.mp h
  exact htarget label (List.mem_of_find?_eq_some hlabel)

/-- The program with a statement at its end, whether or not the label is new. -/
def extended (program : Program) (line : Nat) (text : String) (statement : Source.Statement) :
    Program :=
  match statement.label with
  | none => program.addAction line text statement.action
  | some name => (program.addLabel name line).addAction line text statement.action

theorem findLabel?_eq_none_iff {name : String} :
    program.findLabel? name = none ↔ ∀ label ∈ program.labels, label.name ≠ name := by
  simp [findLabel?]

section
variable {raw : List Char} {lines : List (List Char)}

theorem addLine_eq_ok_iff : program.addLine line raw = .ok after ↔
    (∀ name ∈ (Source.Statement.ofLine raw).label, program.findLabel? name = none) ∧
      program.extended line (String.ofList raw) (Source.Statement.ofLine raw) = after := by
  unfold Program.addLine
  generalize Source.Statement.ofLine raw = statement
  obtain ⟨label, action⟩ := statement
  cases label with
  | none => simp [extended]
  | some name => cases hfind : program.findLabel? name <;> simp [extended, hfind]

theorem addLine_eq_error_iff {duplicate : DuplicateLabel} :
    program.addLine line raw = .error duplicate ↔
      ∃ name found, (Source.Statement.ofLine raw).label = some name ∧
        program.findLabel? name = some found ∧
        duplicate = ⟨name, found.line,
          Location.ofToken program.name line (String.ofList raw) (some name)⟩ := by
  unfold Program.addLine
  generalize Source.Statement.ofLine raw = statement
  obtain ⟨label, action⟩ := statement
  cases label with
  | none => simp
  | some name => cases hfind : program.findLabel? name <;> simp [hfind, eq_comm]

theorem addLines_cons_eq_ok_iff : program.addLines line (raw :: lines) = .ok after ↔
    ∃ next, program.addLine line (Text.dropReturn raw) = .ok next ∧
      next.addLines (line + 1) lines = .ok after := by
  simp only [Program.addLines]
  cases program.addLine line (Text.dropReturn raw) <;> simp

theorem addLines_append_of_ok (h : program.addLines line lines = .ok after)
    (more : List (List Char)) :
    program.addLines line (lines ++ more) = after.addLines (line + lines.length) more := by
  induction lines generalizing program line with
  | nil =>
    cases h
    rfl
  | cons raw rest ih =>
    obtain ⟨next, hnext, hrest⟩ := addLines_cons_eq_ok_iff.mp h
    simp only [List.cons_append, Program.addLines, hnext, ih hrest, List.length_cons,
      Nat.add_assoc, Nat.add_comm 1]

theorem addLines_append_of_error {duplicate : DuplicateLabel}
    (h : program.addLines line lines = .error duplicate) (more : List (List Char)) :
    program.addLines line (lines ++ more) = .error duplicate := by
  induction lines generalizing program line with
  | nil => cases h
  | cons raw rest ih =>
    simp only [List.cons_append, Program.addLines] at h ⊢
    split at h
    · exact ih h
    · exact h

/-- What adding the statement of any of the lines keeps, adding the lines keeps. -/
theorem addLines_induction {P : Program → Prop}
    (hextended : ∀ program line, ∀ raw ∈ lines, P program →
      (∀ name ∈ (Source.Statement.ofLine (Text.dropReturn raw)).label,
        program.findLabel? name = none) →
      P (program.extended line (String.ofList (Text.dropReturn raw))
        (Source.Statement.ofLine (Text.dropReturn raw))))
    (h : P program) (hadd : program.addLines line lines = .ok after) : P after := by
  induction lines generalizing program line with
  | nil =>
    cases hadd
    exact h
  | cons raw rest ih =>
    obtain ⟨next, hnext, hrest⟩ := addLines_cons_eq_ok_iff.mp hadd
    obtain ⟨hfresh, rfl⟩ := addLine_eq_ok_iff.mp hnext
    apply ih _ (hextended program line raw List.mem_cons_self h hfresh) hrest
    intro program line other hother
    exact hextended program line other (List.mem_cons_of_mem raw hother)

end

section
variable {text : String} {statement : Source.Statement}

@[simp] theorem extended_name (program : Program) (line : Nat) (text : String)
    (statement : Source.Statement) :
    (program.extended line text statement).name = program.name := by
  obtain ⟨label, action⟩ := statement
  cases label <;> cases action <;> rfl

theorem mem_labels_extended {label : Label} :
    label ∈ (program.extended line text statement).labels ↔
      label ∈ program.labels ∨
        ∃ name ∈ statement.label, label = ⟨name, program.size, line⟩ := by
  obtain ⟨name, action⟩ := statement
  cases name <;> cases action <;> simp [extended, Program.addAction, Program.addLabel]

end

theorem name_of_assemble {name source : String} (h : assemble name source = .ok program) :
    program.name = name := by
  refine addLines_induction (P := fun program => program.name = name) ?_ rfl h
  intro program line raw _ hname _
  simp [hname]

end RegisterMachine.Program
