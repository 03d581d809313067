import RegisterMachine.Program.Inspection
import RegisterMachine.Proofs.Jump
import RegisterMachine.Proofs.Wording

/-!
The instruction lines of a listing. `Says` lists everything that such a line can say of its
instruction. The forms do not overlap, so what the check and the execution have to say of the
instruction can be read off its line.
-/

namespace RegisterMachine

open Text (Lacks lacks_append)

section
variable {place : Nat} {c : Char}

theorem toList_placeText (place : Nat) : (placeText place).toList =
    List.replicate (4 - (toString place).length) '0' ++ (toString place).toList := by
  simp only [placeText, Text.padStart, Text.repeated, String.toList_append, String.toList_ofList]

theorem isDigit_of_mem_placeText (h : c ∈ (placeText place).toList) : c.isDigit = true := by
  rw [toList_placeText] at h
  rcases List.mem_append.mp h with hzero | hdigit
  · rw [List.eq_of_mem_replicate hzero]
    rfl
  · exact Text.isDigit_of_mem_toString hdigit

theorem placeText_ne_nil (place : Nat) : (placeText place).toList ≠ [] := by
  rw [toList_placeText, Nat.toString_eq_ofList_toDigits, String.toList_ofList]
  exact List.append_ne_nil_of_right_ne_nil _ Nat.toDigits_ne_nil

theorem placeText_injective {first second : Nat}
    (h : (placeText first).toList = (placeText second).toList) : first = second := by
  have hvalue : ∀ place, Nat.ofDigitChars 10 (placeText place).toList 0 = place := by
    intro place
    rw [toList_placeText, Nat.ofDigitChars_append, Nat.ofDigitChars_replicate_zero, Nat.mul_zero,
      Text.ofDigitChars_toString]
  rw [← hvalue first, h, hvalue second]

end

/-- The part of an instruction line in front of what the instruction does. -/
def columns (place line : Nat) : String :=
  placeText place ++ "  L" ++ Text.padEnd 4 ' ' (toString line) ++ " "

/-- The line ends in an arrow to this place, and when it is taken. -/
def ShowsTarget (line : String) (target : Nat) : Prop :=
  ∃ (front : String) (condition : Condition),
    line = front ++ " -> " ++ placeText target ++ condition.remark

/-- The line ends in an arrow to nowhere. -/
def ShowsUndefined (line : String) : Prop :=
  ∃ (front : String) (condition : Condition),
    line = front ++ " -> ????" ++ condition.remark ++ " (undefined label)"

section
variable {line first second : String} {c : Char} {target other : Nat}

theorem exists_placeText_eq_concat (place : Nat) :
    ∃ front digit, (placeText place).toList = front ++ [digit] ∧ digit.isDigit = true := by
  have hsplit := List.dropLast_concat_getLast (placeText_ne_nil place)
  exact ⟨_, _, hsplit.symm, isDigit_of_mem_placeText (List.getLast_mem _)⟩

theorem ShowsTarget.getLast? (h : ShowsTarget line target) :
    ∃ c, line.toList.getLast? = some c ∧ (c.isDigit = true ∨ c = 'Z') := by
  obtain ⟨front, condition, rfl⟩ := h
  cases condition with
  | always =>
    obtain ⟨digits, digit, hdigits, hdigit⟩ := exists_placeText_eq_concat target
    refine ⟨digit, ?_, .inl hdigit⟩
    rw [Condition.remark, String.append_empty]
    apply Text.getLast?_append_of_some
    rw [hdigits, List.getLast?_concat]
  | zero => exact ⟨'Z', Text.getLast?_append_of_some rfl, .inr rfl⟩
  | notZero => exact ⟨'Z', Text.getLast?_append_of_some rfl, .inr rfl⟩

theorem ShowsUndefined.getLast? (h : ShowsUndefined line) : line.toList.getLast? = some ')' := by
  obtain ⟨front, condition, rfl⟩ := h
  exact Text.getLast?_append_of_some rfl

theorem ShowsTarget.not_showsUndefined (h : ShowsTarget line target) : ¬ ShowsUndefined line := by
  intro hundefined
  obtain ⟨c, hlast, hc⟩ := h.getLast?
  rw [hundefined.getLast?] at hlast
  cases hlast
  rcases hc with hc | hc <;> cases hc

theorem ShowsTarget.arrow (h : ShowsTarget line target) : ¬ Lacks '>' line := by
  obtain ⟨front, condition, rfl⟩ := h
  simp only [lacks_append]
  rintro ⟨⟨⟨_, harrow⟩, _⟩, _⟩
  revert harrow
  decide

theorem ShowsUndefined.arrow (h : ShowsUndefined line) : ¬ Lacks '>' line := by
  obtain ⟨front, condition, rfl⟩ := h
  simp only [lacks_append]
  rintro ⟨⟨⟨_, harrow⟩, _⟩, _⟩
  revert harrow
  decide

/-- In front of the remark stands the last digit of the target. -/
theorem exists_toList_arrow (front : String) (target : Nat) (condition : Condition) :
    ∃ start digit, (front ++ " -> " ++ placeText target ++ condition.remark).toList =
      start ++ digit :: condition.remark.toList ∧ digit.isDigit = true := by
  obtain ⟨digits, digit, hdigits, hdigit⟩ := exists_placeText_eq_concat target
  refine ⟨(front ++ " -> ").toList ++ digits, digit, ?_, hdigit⟩
  rw [String.toList_append, String.toList_append, hdigits, ← List.append_assoc, List.append_assoc]
  rfl

theorem not_isDigit_of_mem_remark {condition : Condition} :
    ∀ c ∈ condition.remark.toList, (!c.isDigit) = true := by
  apply List.all_eq_true.mp
  cases condition <;> rfl

/-- A line shows one target at most. -/
theorem ShowsTarget.unique (h : ShowsTarget line target) (hother : ShowsTarget line other) :
    target = other := by
  obtain ⟨front, condition, rfl⟩ := h
  obtain ⟨before, taken, hline⟩ := hother
  have hremark : condition.remark = taken.remark := by
    obtain ⟨start, digit, htext, hdigit⟩ := exists_toList_arrow front target condition
    obtain ⟨lead, figure, hfigures, hfigure⟩ := exists_toList_arrow before other taken
    have hlists := congrArg String.toList hline
    rw [htext, hfigures] at hlists
    apply String.toList_inj.mp
    exact Text.tail_eq_of_append_eq (congrArg not hdigit) (congrArg not hfigure)
      not_isDigit_of_mem_remark not_isDigit_of_mem_remark hlists
  rw [hremark, String.append_left_inj] at hline
  have harrow : ∀ (front : String) (place : Nat), (front ++ " -> " ++ placeText place).toList =
      (front ++ " ->").toList ++ ' ' :: (placeText place).toList := by
    intro front place
    simp only [String.toList_append, List.append_assoc]
    rfl
  have hlists := congrArg String.toList hline
  rw [harrow, harrow] at hlists
  have hblank : ' '.isDigit = false := rfl
  apply placeText_injective
  exact Text.tail_eq_of_append_eq hblank hblank (fun _ => isDigit_of_mem_placeText)
    (fun _ => isDigit_of_mem_placeText) hlists

end

section
variable {c : Char} (hc : c = '>' ∨ c = '\n')

include hc

theorem Operation.lacks_text {operation : Operation} {program : Program}
    (hjump : ∀ condition label, operation ≠ .jump condition label) :
    Lacks c (operation.text program) := by
  have hdigit : c.isDigit = false := by rcases hc with rfl | rfl <;> rfl
  have hminus : c ≠ '-' := by rcases hc with rfl | rfl <;> decide
  have hregister : ∀ index, Lacks c (registerName index) := by
    intro index
    rw [registerName, lacks_append]
    refine ⟨?_, Text.lacks_toString hdigit index⟩
    rcases hc with rfl | rfl <;> decide
  have hnumber := Text.lacks_toString hdigit
  have hint := Text.lacks_toString_int hdigit hminus
  cases operation with
  | load dest src =>
    cases src <;>
      simp only [text, ValueSource.text, lacks_append, hregister, hnumber, hint, and_true] <;>
      rcases hc with rfl | rfl <;> decide
  | cmp left right =>
    cases right <;>
      simp only [text, Comparand.text, lacks_append, hregister, hint, and_true] <;>
      rcases hc with rfl | rfl <;> decide
  | jump condition label => exact absurd rfl (hjump condition label)
  | _ =>
    simp only [text, lacks_append, hregister, hnumber, and_true]
    rcases hc with rfl | rfl <;> decide

theorem Opcode.lacks_mnemonic (opcode : Opcode) : Lacks c opcode.mnemonic := by
  intro hmem
  have hword := Source.isWordChar_of_isIdentifier opcode.isIdentifier_mnemonic c hmem
  rcases hc with rfl | rfl <;> cases hword

theorem lacks_columns (place line : Nat) : Lacks c (columns place line) := by
  have hdigit : c.isDigit = false := by rcases hc with rfl | rfl <;> rfl
  have hblank : c ≠ ' ' := by rcases hc with rfl | rfl <;> decide
  have hplace : Lacks c (placeText place) :=
    Text.lacks_of_digits hdigit fun _ => isDigit_of_mem_placeText
  have hpadding := Text.lacks_repeated hblank
  simp only [columns, Text.padEnd, lacks_append, hplace, Text.lacks_toString hdigit, hpadding,
    and_true, true_and]
  rcases hc with rfl | rfl <;> decide

end

/-- Whether a failure is that the instruction has no meaning. -/
def Failure.isUndecodable : Failure → Bool
  | badOperand _ _ _ _ => true
  | unknownOpcode _ _ => true
  | _ => false

namespace Program

variable {program : Program} {config : Config} {instruction : Instruction} {opcode : Opcode}
variable {condition : Condition} {label text : String} {place line target : Nat}
variable {failure : Failure}

theorem text_jump (program : Program) (condition : Condition) (label : String) :
    (Operation.jump condition label).text program =
      match program.resolve? label with
      | some target => " " ++ label ++ " -> " ++ placeText target ++ condition.remark
      | none => " " ++ label ++ " -> ????" ++ condition.remark ++ " (undefined label)" :=
  rfl

/-- What the line of an instruction can say of it. -/
inductive Says (program : Program) (config : Config) (instruction : Instruction) :
    String → Prop where
  | fault {failure : Failure} : instruction.decode program.name config = .error failure →
      Says program config instruction ("!! " ++ failure.message)
  | jump {opcode : Opcode} {condition : Condition} {label : String} {target : Nat} :
      instruction.decode program.name config = .ok (opcode, .jump condition label) →
      program.resolve? label = some target →
      Says program config instruction
        (opcode.mnemonic ++ (" " ++ label ++ " -> " ++ placeText target ++ condition.remark))
  | astray {opcode : Opcode} {condition : Condition} {label : String} :
      instruction.decode program.name config = .ok (opcode, .jump condition label) →
      program.resolve? label = none →
      Says program config instruction (opcode.mnemonic ++
        (" " ++ label ++ " -> ????" ++ condition.remark ++ " (undefined label)"))
  | plain {opcode : Opcode} {operation : Operation} :
      instruction.decode program.name config = .ok (opcode, operation) →
      (∀ condition label, operation ≠ .jump condition label) →
      Says program config instruction (opcode.mnemonic ++ operation.text program)

theorem says_instructionText (program : Program) (config : Config) (instruction : Instruction) :
    Says program config instruction (program.instructionText config instruction) := by
  unfold instructionText
  split
  · rename_i opcode operation hdecode
    cases operation with
    | jump condition label =>
      rw [text_jump]
      split
      · exact .jump hdecode ‹_›
      · exact .astray hdecode ‹_›
    | _ => exact .plain hdecode nofun
  · exact .fault ‹_›

theorem showsTarget_jump (front : String) :
    ShowsTarget (front ++ (opcode.mnemonic ++
      (" " ++ label ++ " -> " ++ placeText target ++ condition.remark))) target := by
  refine ⟨front ++ opcode.mnemonic ++ " " ++ label, condition, ?_⟩
  simp only [String.append_assoc]

theorem showsUndefined_astray (front : String) :
    ShowsUndefined (front ++ (opcode.mnemonic ++
      (" " ++ label ++ " -> ????" ++ condition.remark ++ " (undefined label)"))) := by
  refine ⟨front ++ opcode.mnemonic ++ " " ++ label, condition, ?_⟩
  simp only [String.append_assoc]

theorem getLast?_message {failure : Failure}
    (h : instruction.decode program.name config = .error failure) (front : String) :
    (front ++ ("!! " ++ failure.message)).toList.getLast? = some '.' := by
  obtain ⟨_, hlocation⟩ := Instruction.locate_of_decode h
  obtain ⟨words, hmessage⟩ := Failure.exists_message_eq (Instruction.isStatic_of_decode h) hlocation
  rw [hmessage]
  apply Text.getLast?_append_of_some
  apply Text.getLast?_append_of_some
  exact Text.getLast?_append_of_some rfl

theorem lacks_plain {operation : Operation} {c : Char} (hc : c = '>' ∨ c = '\n')
    (h : ∀ condition label, operation ≠ .jump condition label) :
    Lacks c (columns place line ++ (opcode.mnemonic ++ operation.text program)) := by
  rw [lacks_append, lacks_append]
  exact ⟨lacks_columns hc place line, Opcode.lacks_mnemonic hc opcode, Operation.lacks_text hc h⟩

section
variable {P : String → Prop}

theorem exists_jump_iff
    (h : instruction.decode program.name config = .ok (opcode, .jump condition label)) :
    (∃ opcode condition label,
      instruction.decode program.name config = .ok (opcode, .jump condition label) ∧ P label) ↔
    P label := by
  constructor
  · rintro ⟨_, _, _, hjump, hlabel⟩
    cases h.symm.trans hjump
    exact hlabel
  · intro hlabel
    exact ⟨opcode, condition, label, h, hlabel⟩

theorem not_exists_jump_of_error
    (h : instruction.decode program.name config = .error failure) :
    ¬ ∃ opcode condition label,
      instruction.decode program.name config = .ok (opcode, .jump condition label) ∧ P label := by
  rintro ⟨_, _, _, hjump, _⟩
  cases h.symm.trans hjump

theorem not_exists_jump_of_plain {operation : Operation}
    (h : instruction.decode program.name config = .ok (opcode, operation))
    (hplain : ∀ condition label, operation ≠ .jump condition label) :
    ¬ ∃ opcode condition label,
      instruction.decode program.name config = .ok (opcode, .jump condition label) ∧ P label := by
  rintro ⟨_, condition, label, hjump, _⟩
  cases h.symm.trans hjump
  exact hplain condition label rfl

end

theorem Says.showsTarget_iff (h : Says program config instruction text) :
    ShowsTarget (columns place line ++ text) target ↔ ∃ opcode condition label,
      instruction.decode program.name config = .ok (opcode, .jump condition label) ∧
      program.resolve? label = some target := by
  cases h with
  | fault hdecode =>
    refine iff_of_false ?_ (not_exists_jump_of_error hdecode)
    intro hshows
    obtain ⟨c, hlast, hc⟩ := hshows.getLast?
    rw [getLast?_message hdecode] at hlast
    cases hlast
    rcases hc with hc | hc <;> cases hc
  | jump hdecode hlabel =>
    rw [exists_jump_iff hdecode, hlabel, Option.some.injEq]
    constructor
    · intro hshows
      exact (showsTarget_jump _).unique hshows
    · rintro rfl
      exact showsTarget_jump _
  | astray hdecode hlabel =>
    rw [exists_jump_iff hdecode, hlabel]
    refine iff_of_false ?_ (Option.some_ne_none _).symm
    intro hshows
    exact hshows.not_showsUndefined (showsUndefined_astray _)
  | plain hdecode hplain =>
    refine iff_of_false ?_ (not_exists_jump_of_plain hdecode hplain)
    intro hshows
    exact hshows.arrow (lacks_plain (.inl rfl) hplain)

theorem Says.showsUndefined_iff (h : Says program config instruction text) :
    ShowsUndefined (columns place line ++ text) ↔ ∃ opcode condition label,
      instruction.decode program.name config = .ok (opcode, .jump condition label) ∧
      program.resolve? label = none := by
  cases h with
  | fault hdecode =>
    refine iff_of_false ?_ (not_exists_jump_of_error hdecode)
    intro hshows
    cases hshows.getLast?.symm.trans (getLast?_message hdecode _)
  | jump hdecode hlabel =>
    rw [exists_jump_iff hdecode, hlabel]
    exact iff_of_false (showsTarget_jump _).not_showsUndefined (Option.some_ne_none _)
  | astray hdecode hlabel =>
    rw [exists_jump_iff hdecode, hlabel]
    exact iff_of_true (showsUndefined_astray _) rfl
  | plain hdecode hplain =>
    refine iff_of_false ?_ (not_exists_jump_of_plain hdecode hplain)
    intro hshows
    exact hshows.arrow (lacks_plain (.inl rfl) hplain)

theorem mnemonic_append_ne (opcode : Opcode) (rest message : String) :
    opcode.mnemonic ++ rest ≠ "!! " ++ message := by
  obtain ⟨c, letters, hletters, hc⟩ :
      ∃ c letters, opcode.mnemonic.toList = c :: letters ∧ c ≠ '!' := by
    cases opcode <;> exact ⟨_, _, rfl, by decide⟩
  intro heq
  have hlists := congrArg String.toList heq
  rw [String.toList_append, String.toList_append, hletters] at hlists
  exact hc (List.cons.inj hlists).1

theorem Says.fault_iff {message : String} (h : Says program config instruction text) :
    text = "!! " ++ message ↔ ∃ failure,
      instruction.decode program.name config = .error failure ∧ failure.message = message := by
  have hok : ∀ {opcode operation rest},
      instruction.decode program.name config = .ok (opcode, operation) →
      (opcode.mnemonic ++ rest = "!! " ++ message ↔ ∃ failure,
        instruction.decode program.name config = .error failure ∧ failure.message = message) := by
    intro opcode operation rest hdecode
    constructor
    · intro heq
      exact absurd heq (mnemonic_append_ne opcode rest message)
    · rintro ⟨_, hfailure, _⟩
      cases hdecode.symm.trans hfailure
  cases h with
  | fault hdecode =>
    rw [String.append_right_inj]
    constructor
    · intro heq
      exact ⟨_, hdecode, heq⟩
    · rintro ⟨_, hfailure, rfl⟩
      cases hdecode.symm.trans hfailure
      rfl
  | jump hdecode _ => exact hok hdecode
  | astray hdecode _ => exact hok hdecode
  | plain hdecode _ => exact hok hdecode

theorem mem_problems_iff_problem? (h : program.instructions[place]? = some instruction) :
    (place, failure) ∈ program.problems config ↔
      instruction.problem? program config = some failure := by
  rw [mem_problems_iff, h]
  constructor
  · rintro ⟨_, ⟨⟩, hproblem⟩
    exact hproblem
  · intro hproblem
    exact ⟨instruction, rfl, hproblem⟩

theorem decode_eq_error_iff_problem? : instruction.decode program.name config = .error failure ↔
    instruction.problem? program config = some failure ∧ failure.isUndecodable = true := by
  rw [Instruction.problem?_eq_some_iff]
  constructor
  · intro hdecode
    refine ⟨.inl hdecode, ?_⟩
    rcases Instruction.decode_eq_error hdecode with rfl | ⟨_, _, _, _, _, rfl⟩ <;> rfl
  · rintro ⟨hdecode | ⟨_, _, _, _, _, rfl⟩, hundecodable⟩
    · exact hdecode
    · cases hundecodable

theorem jump_astray_iff_problem? :
    (∃ opcode condition label,
      instruction.decode program.name config = .ok (opcode, .jump condition label) ∧
      program.resolve? label = none) ↔
    ∃ opcode label location,
      instruction.problem? program config = some (.unknownLabel opcode label location) := by
  simp only [Instruction.problem?_eq_some_iff]
  constructor
  · rintro ⟨opcode, condition, label, hdecode, hlabel⟩
    exact ⟨opcode, label, _, .inr ⟨opcode, condition, label, hdecode, hlabel, rfl⟩⟩
  · rintro ⟨_, _, _, hdecode | ⟨opcode, condition, label, hdecode, hlabel, _⟩⟩
    · rcases Instruction.decode_eq_error hdecode with hfailure | ⟨_, _, _, _, _, hfailure⟩
      · cases hfailure
      · cases hfailure
    · exact ⟨opcode, condition, label, hdecode, hlabel⟩

/-- The line of an instruction says what the check and the execution say. -/
structure LineAgrees (program : Program) (config : Config) (place : Nat)
    (instruction : Instruction) (line : String) : Prop where
  fault : ∀ message, line = columns place instruction.line ++ ("!! " ++ message) ↔
    ∃ failure, (place, failure) ∈ program.problems config ∧ failure.isUndecodable = true ∧
      failure.message = message
  undefined : ShowsUndefined line ↔
    ∃ opcode label location, (place, .unknownLabel opcode label location) ∈ program.problems config
  target : ∀ target, ShowsTarget line target ↔ ∃ opcode condition label,
    instruction.decode program.name config = .ok (opcode, .jump condition label) ∧
    program.resolve? label = some target
  taken : ∀ opcode condition label,
    instruction.decode program.name config = .ok (opcode, .jump condition label) →
    ∀ engine : Engine, engine.config = config → engine.program = program →
      engine.machine.pc = place → engine.machine.halted = false →
      engine.machine.cycles < config.maxCycles → condition.holds engine.machine.flags = true →
      ∀ target, ShowsTarget line target ↔
        engine.step.1 = .ok false ∧ engine.step.2.machine.pc = target

theorem instructionLine_eq (program : Program) (config : Config) (place : Nat)
    (instruction : Instruction) : program.instructionLine config place instruction =
      columns place instruction.line ++ program.instructionText config instruction :=
  rfl

theorem lineAgrees (h : program.instructions[place]? = some instruction) :
    program.LineAgrees config place instruction
      (program.instructionLine config place instruction) := by
  have hform := says_instructionText program config instruction
  rw [instructionLine_eq]
  constructor
  · intro message
    rw [String.append_right_inj, hform.fault_iff]
    simp only [decode_eq_error_iff_problem?, mem_problems_iff_problem? h, and_assoc]
  · rw [hform.showsUndefined_iff, jump_astray_iff_problem?]
    simp only [mem_problems_iff_problem? h]
  · intro target
    exact hform.showsTarget_iff
  · rintro opcode condition label hdecode engine rfl rfl rfl hrunning hcap htaken target
    have hdecodes : engine.Decodes instruction opcode (.jump condition label) :=
      ⟨hrunning, h, hdecode⟩
    rw [hform.showsTarget_iff, exists_jump_iff hdecode, hdecodes.step_pc_iff htaken hcap]

end Program

end RegisterMachine
