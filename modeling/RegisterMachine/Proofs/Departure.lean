import RegisterMachine.Proofs.Check
import RegisterMachine.Proofs.Frame

/-!
How control leaves a program. It goes over the end from the last instruction, or jumps to a label
behind it from any instruction. The failure that follows names the last instruction either way, so
it names the line that was executed exactly when that is the last one.
-/

namespace RegisterMachine

namespace Program

variable {program : Program} {first second : Instruction} {bound i j : Nat}

theorem Ordered.line_lt_of_lt (h : program.Ordered bound)
    (hfirst : program.instructions[i]? = some first)
    (hsecond : program.instructions[j]? = some second) (hlt : i < j) :
    first.line < second.line := by
  rw [← Array.getElem?_toList] at hfirst hsecond
  obtain ⟨hi, rfl⟩ := List.getElem?_eq_some_iff.mp hfirst
  obtain ⟨hj, rfl⟩ := List.getElem?_eq_some_iff.mp hsecond
  exact List.pairwise_iff_getElem.mp h.increasing i j hi hj hlt

theorem Ordered.line_eq_iff (h : program.Ordered bound)
    (hfirst : program.instructions[i]? = some first)
    (hsecond : program.instructions[j]? = some second) : first.line = second.line ↔ i = j := by
  constructor
  · intro hline
    rcases Nat.lt_trichotomy i j with hlt | heq | hgt
    · have hless := h.line_lt_of_lt hfirst hsecond hlt
      omega
    · exact heq
    · have hmore := h.line_lt_of_lt hsecond hfirst hgt
      omega
  · rintro rfl
    rw [Option.some.inj (hfirst.symm.trans hsecond)]

theorem exists_last (h : program.isEmpty = false) : ∃ last,
    program.instructions.back? = some last ∧
      program.instructions[program.size - 1]? = some last ∧ 0 < program.size := by
  have hpos : 0 < program.size :=
    Array.size_pos_iff.mpr (Array.isEmpty_eq_false_iff.mp h)
  have hlt : program.size - 1 < program.instructions.size := Nat.sub_one_lt_of_lt hpos
  refine ⟨program.instructions[program.size - 1], ?_, Array.getElem?_eq_getElem hlt, hpos⟩
  rw [Array.back?_eq_getElem?]
  exact Array.getElem?_eq_getElem hlt

end Program

namespace Engine

variable {engine after start : Engine} {result : Except Failure Bool} {instruction : Instruction}
variable {opcode : Opcode} {operation : Operation} {flow : Flow} {machine : Machine}
variable {channel : Channel}

/-- Control is about to leave the program: from the last instruction, or by a jump to a label behind
all of them. -/
def Departs (engine : Engine) (operation : Operation) : Prop :=
  engine.machine.pc + 1 = engine.program.size ∨
    ∃ condition label, operation = .jump condition label ∧
      condition.holds engine.machine.flags = true ∧
      engine.program.resolve? label = some engine.program.size

theorem Decodes.pc_lt (h : engine.Decodes instruction opcode operation) :
    engine.machine.pc < engine.program.size :=
  (Array.getElem?_eq_some_iff.mp h.current).1

/-- An operation behind which nothing is left to execute leads out of the program. -/
theorem Performs.departs (h : engine.Performs instruction opcode operation flow machine channel)
    (htarget : ∀ label ∈ engine.program.labels, label.target ≤ engine.program.size)
    (hout : engine.program.size ≤ ((engine.spent machine channel).follow flow).machine.pc) :
    engine.Departs operation ∧
      ((engine.spent machine channel).follow flow).machine.pc = engine.program.size := by
  have hlt := h.pc_lt
  have hpc : machine.pc = engine.machine.pc := h.change.pc
  rcases Operation.flow_cases h.flows with
    ⟨rfl, rfl⟩ | ⟨condition, label, target, rfl, htaken, hlabel, rfl⟩ | ⟨_, _, rfl⟩
  · change engine.program.size ≤ machine.pc at hout
    omega
  · have hle := Program.target_le_of_resolve? htarget hlabel
    change engine.program.size ≤ target at hout
    obtain rfl : target = engine.program.size := by omega
    exact ⟨.inr ⟨condition, label, rfl, htaken, hlabel⟩, rfl⟩
  · change engine.program.size ≤ machine.pc + 1 at hout
    have hsize : engine.machine.pc + 1 = engine.program.size := by omega
    refine ⟨.inl hsize, ?_⟩
    change machine.pc + 1 = engine.program.size
    rw [hpc, hsize]

/-- A step behind which the engine still runs has performed an operation. -/
theorem StepRule.performs_of_running (h : engine.StepRule result after)
    (hprogram : engine.program.isEmpty = false) (hrunning : after.machine.halted = false) :
    ∃ instruction opcode operation flow machine channel,
      engine.Performs instruction opcode operation flow machine channel ∧
      result = .ok false ∧ after = (engine.spent machine channel).follow flow := by
  cases h with
  | idle hhalted => cases hrunning.symm.trans hhalted
  | noProgram _ hempty => cases hprogram.symm.trans hempty
  | pastEnd | undecodable | unresolved | stray | capped => cases hrunning
  | performed hperforms _ => exact ⟨_, _, _, _, _, _, hperforms, by rw [hrunning], rfl⟩

/-- A step to a place without instruction executes the last one, or jumps. -/
theorem departs_of_step (engine : Engine) (hprogram : engine.program.isEmpty = false)
    (htarget : ∀ label ∈ engine.program.labels, label.target ≤ engine.program.size)
    (hrunning : engine.step.2.machine.halted = false)
    (hout : engine.program.size ≤ engine.step.2.machine.pc) :
    ∃ instruction opcode operation, engine.Decodes instruction opcode operation ∧
      engine.step.1 = .ok false ∧ engine.Departs operation ∧
      engine.step.2.machine.pc = engine.program.size := by
  obtain ⟨instruction, opcode, operation, flow, machine, channel, hperforms, hok, hafter⟩ :=
    engine.stepRule.performs_of_running hprogram hrunning
  rw [hafter] at hout ⊢
  obtain ⟨hdeparts, hend⟩ := hperforms.departs htarget hout
  exact ⟨instruction, opcode, operation, hperforms.toDecodes, hok, hdeparts, hend⟩

theorem StepRule.of_pcOutOfBounds {pc size : Nat} {location : Option Location}
    (h : engine.StepRule (.error (.pcOutOfBounds pc size location)) after) :
    engine.machine.halted = false ∧ engine.program.isEmpty = false ∧
      engine.program.size ≤ engine.machine.pc ∧
      pc = engine.machine.pc ∧ size = engine.program.size ∧
      location = engine.program.instructions.back?.map (·.locate engine.program.name none) := by
  cases h with
  | pastEnd hrunning hprogram hcurrent =>
    exact ⟨hrunning, hprogram, Array.getElem?_eq_none_iff.mp hcurrent, rfl, rfl, rfl⟩
  | undecodable _ _ hdecode => cases Instruction.isStatic_of_decode hdecode

/-- In front of a failure because control has left the program, a step executed the last instruction
or jumped to a label behind it. The failure names the last instruction, and so the line of the
executed one exactly if these are the same. -/
theorem out_of_bounds_names_last {name source : String} {program : Program}
    (h : Program.assemble name source = .ok program) (hprogram : start.program = program)
    (hpc : start.machine.pc = 0) {count pc size : Nat} {location : Option Location}
    (hstep : (start.stepped count).step.1 = .error (.pcOutOfBounds pc size location)) :
    ∃ before last instruction opcode operation place, count = before + 1 ∧
      pc = program.size ∧ size = program.size ∧
      program.instructions.back? = some last ∧
      location = some place ∧ place.file = name ∧ place.line = last.line ∧
      (start.stepped before).Decodes instruction opcode operation ∧
      (start.stepped before).step.1 = .ok false ∧
      (start.stepped before).Departs operation ∧
      (place.line = instruction.line ↔
        (start.stepped before).machine.pc + 1 = program.size) := by
  have hkept : ∀ k, (start.stepped k).program = program := by
    intro k
    simp [hprogram]
  have hordered := Program.ordered_of_assemble h
  obtain ⟨hrunning, hempty, hout, rfl, rfl, rfl⟩ := (stepRule_of_error hstep).of_pcOutOfBounds
  rw [hkept] at hempty hout ⊢
  obtain ⟨last, hback, hlast, hpos⟩ := Program.exists_last hempty
  cases count with
  | zero =>
    rw [stepped, hpc] at hout
    omega
  | succ before =>
    rw [stepped_succ] at hrunning hout ⊢
    obtain ⟨instruction, opcode, operation, hdecodes, hok, hdeparts, hend⟩ :=
      (start.stepped before).departs_of_step (by rwa [hkept])
        (by rw [hkept]; exact hordered.target_le) hrunning (by rwa [hkept])
    have hplace := hdecodes.current
    rw [current?, hkept] at hplace
    rw [hkept] at hend
    refine ⟨before, last, instruction, opcode, operation, last.locate program.name none, rfl, hend,
      rfl, hback, by rw [hback]; rfl, Program.name_of_assemble h, rfl, hdecodes, hok, hdeparts, ?_⟩
    exact (hordered.line_eq_iff hlast hplace).trans (by omega)

/-- A jump on the last line, which goes behind it, is named. -/
theorem out_of_bounds_names_jump : ∃ program place instruction opcode operation,
    Program.assemble "p" "INC r0\nJMP end\nend:\n" = .ok program ∧
    (((new {}).install program).stepped 2).step.1 = .error (.pcOutOfBounds 2 2 (some place)) ∧
    (((new {}).install program).stepped 1).Decodes instruction opcode operation ∧
    place.line = instruction.line := by
  have hassemble : Program.assemble "p" "INC r0\nJMP end\nend:\n" = .ok
      ⟨"p", #[⟨"INC", ["r0"], 1, "INC r0"⟩, ⟨"JMP", ["end"], 2, "JMP end"⟩], [⟨"end", 2, 3⟩]⟩ := rfl
  have hstep : (((new {}).install ⟨"p", #[⟨"INC", ["r0"], 1, "INC r0"⟩,
      ⟨"JMP", ["end"], 2, "JMP end"⟩], [⟨"end", 2, 3⟩]⟩).stepped 2).step.1 =
      .error (.pcOutOfBounds 2 2 (some ⟨"p", 2, 1⟩)) := rfl
  obtain ⟨before, _, instruction, opcode, operation, place, hcount, _, _, _, hplace, _, _, hdecodes,
    _, _, hline⟩ := out_of_bounds_names_last hassemble rfl rfl hstep
  obtain rfl : before = 1 := by omega
  cases hplace
  exact ⟨_, _, instruction, opcode, operation, hassemble, hstep, hdecodes, hline.mpr rfl⟩

/-- A jump from the first line over a halt: the failure names the halt, which was never executed. -/
theorem out_of_bounds_names_skipped : ∃ program instruction,
    Program.assemble Program.anonymous "JMP end\nHALT\nend:\n" = .ok program ∧
    ((new {}).install program).current? = some instruction ∧ instruction.line = 1 ∧
    ((new {}).install program).step.1 = .ok false ∧
    (((new {}).install program).stepped 1).step.1 =
      .error (.pcOutOfBounds 2 2 (some ⟨Program.anonymous, 2, 1⟩)) :=
  ⟨_, _, rfl, rfl, rfl, rfl, rfl⟩

end Engine

end RegisterMachine
