import RegisterMachine.Proofs.Grammar
import RegisterMachine.Proofs.Printing
import RegisterMachine.Proofs.Step

/-!
Jumps and the labels they can name. A token names a label when it is an identifier without the shape
of a register, so a label `r1` can be defined but no jump reaches it. Every other label that a
source defines is the target of a jump that names it, and a taken jump moves control there and
changes nothing else.
-/

namespace RegisterMachine

variable {opcode : Opcode} {condition : Condition} {instruction : Instruction} {config : Config}
variable {label : String}

theorem Opcode.positions_of_condition? (h : opcode.condition? = some condition) :
    opcode.positions = [[.label]] := by
  rw [← condition?_eq_some_iff.mp h]
  cases condition <;> rfl

theorem Operation.ofOperands_eq_jump_iff {operands : List Operand} :
    ofOperands opcode operands = .ok (.jump condition label) ↔
      opcode.condition? = some condition ∧ operands = [.label label] := by
  rw [ofOperands_eq_ok_iff, Opcode.condition?_eq_some_iff]
  exact and_congr_right fun _ => eq_comm

namespace Operand

theorem resolve_label_iff {token : String} :
    resolve token [.label] config = .ok (.label label) ↔
      token = label ∧ classify token.toList = .label := by
  rw [resolve_eq_ok_iff, Means]
  cases hkind : classify token.toList with
  | label =>
    simp only [Operand.label.injEq, and_true]
    exact ⟨fun h => h.2.symm, fun h => ⟨rfl, h.symm⟩⟩
  | register | memory | immediate =>
    simp only [reduceCtorEq, and_false, iff_false, not_and]
    intro hadmits
    cases hadmits

theorem resolveAll_label_iff {token : String} :
    resolveAll config [(token, [.label])] = .ok [.label label] ↔
      token = label ∧ classify token.toList = .label := by
  rw [← @resolve_label_iff config]
  simp only [resolveAll]
  cases resolve token [.label] config with
  | error fault => simp only [reduceCtorEq]
  | ok operand => simp only [Except.ok.injEq, List.cons.injEq, and_true]

end Operand

namespace Instruction

/-- What decodes to a jump: a jumping opcode with one operand, which names a label. -/
theorem decode_eq_jump_iff {file : String} :
    instruction.decode file config = .ok (opcode, .jump condition label) ↔
      Opcode.ofMnemonic? instruction.opcode = some opcode ∧ opcode.condition? = some condition ∧
      instruction.operands = [label] ∧ Operand.classify label.toList = .label := by
  rw [decode_eq_ok_iff]
  constructor
  · rintro ⟨hopcode, hlength, operands, hoperands, hoperation⟩
    obtain ⟨hcondition, rfl⟩ := Operation.ofOperands_eq_jump_iff.mp hoperation
    rw [Opcode.positions_of_condition? hcondition] at hlength hoperands
    obtain ⟨token, htoken⟩ := List.length_eq_one_iff.mp hlength
    rw [htoken] at hoperands
    obtain ⟨rfl, hkind⟩ := Operand.resolveAll_label_iff.mp hoperands
    exact ⟨hopcode, hcondition, htoken, hkind⟩
  · rintro ⟨hopcode, hcondition, hoperands, hkind⟩
    rw [Opcode.positions_of_condition? hcondition, hoperands]
    refine ⟨hopcode, rfl, [.label label], ?_, ?_⟩
    · exact Operand.resolveAll_label_iff.mpr ⟨rfl, hkind⟩
    · exact Operation.ofOperands_eq_jump_iff.mpr ⟨hcondition, rfl⟩

theorem decode_of_register_shaped {file : String} (hopcode : instruction.opcode = opcode.mnemonic)
    (hcondition : opcode.condition? = some condition) (hoperands : instruction.operands = [label])
    (hregister : Operand.isRegisterShaped label.toList = true) :
    instruction.decode file config = .error (.badOperand opcode (some label)
      (.notAllowed .register [.label]) (instruction.locate file (some label))) := by
  have hkind : Operand.classify label.toList = .register := by
    simp only [Operand.classify, hregister, ite_true]
  have hresolve : Operand.resolve label [.label] config =
      .error (.notAllowed .register [.label]) := by
    simp only [Operand.resolve, hkind]
    rfl
  simp only [decode, refuse, hopcode, Opcode.ofMnemonic?_mnemonic,
    Opcode.positions_of_condition? hcondition, hoperands, List.length_singleton, ite_true,
    List.zip_cons_cons, Operand.resolveAll, hresolve]

end Instruction

namespace Engine

variable {engine : Engine} {target : Nat}

/-- The engine after one cycle in which control has moved to a place, and nothing else. -/
def moved (engine : Engine) (place : Nat) : Engine :=
  { engine with
    machine := { engine.machine with pc := place, cycles := engine.machine.cycles + 1 } }

theorem perform_taken (htaken : condition.holds engine.machine.flags = true)
    (hlabel : engine.program.resolve? label = some target)
    (hcap : engine.machine.cycles < engine.config.maxCycles) :
    engine.perform instruction opcode (.jump condition label) = (.ok (), engine.moved target) := by
  have hunder : ¬ engine.config.maxCycles < engine.machine.cycles + 1 := by omega
  simp only [perform, performWith, Operation.flow, htaken, hlabel, ite_true, Machine.effect?,
    hunder, ite_false]
  rfl

theorem Decodes.step_taken (h : engine.Decodes instruction opcode (.jump condition label))
    (htaken : condition.holds engine.machine.flags = true)
    (hlabel : engine.program.resolve? label = some target)
    (hcap : engine.machine.cycles < engine.config.maxCycles) :
    engine.step = (.ok false, engine.moved target) := by
  have hperform : engine.perform instruction opcode (.jump condition label) =
      (.ok (), engine.moved target) := perform_taken htaken hlabel hcap
  rw [step, h.stepWith_eq, ← perform, hperform]
  simp only [moved, h.running]

/-- A taken jump goes where the label is, and fails if there is none. -/
theorem Decodes.step_pc_iff (h : engine.Decodes instruction opcode (.jump condition label))
    (htaken : condition.holds engine.machine.flags = true)
    (hcap : engine.machine.cycles < engine.config.maxCycles) :
    engine.step.1 = .ok false ∧ engine.step.2.machine.pc = target ↔
      engine.program.resolve? label = some target := by
  cases hlabel : engine.program.resolve? label with
  | some place =>
    rw [h.step_taken htaken hlabel hcap, Option.some.injEq]
    exact and_iff_right rfl
  | none =>
    rw [(StepRule.unresolved h htaken hlabel).step_eq]
    constructor
    · rintro ⟨hok, _⟩
      cases hok
    · intro hnone
      cases hnone

end Engine

namespace Program

variable {program : Program} {place : Nat} {name source : String}

theorem isIdentifier_of_resolve? (h : assemble name source = .ok program)
    (hlabel : program.resolve? label = some place) : Source.isIdentifier label.toList = true :=
  (printable_of_assemble h).names _ (mem_places_of_resolve? hlabel)

/-- A jump to a label of the program decodes, and moves control to the place of the label whenever
it is taken, provided that the label does not have the shape of a register. A label of that shape
reads as a register, which no jump admits. -/
theorem jump_reaches_label (h : assemble name source = .ok program)
    (hlabel : program.resolve? label = some place)
    (hcondition : opcode.condition? = some condition)
    (hopcode : instruction.opcode = opcode.mnemonic) (hoperands : instruction.operands = [label])
    (file : String) (config : Config) :
    (Operand.isRegisterShaped label.toList = false →
      instruction.decode file config = .ok (opcode, .jump condition label) ∧
      ∀ engine : Engine, engine.config = config → engine.program = program →
        engine.machine.halted = false → engine.machine.cycles < config.maxCycles →
        condition.holds engine.machine.flags = true →
        engine.perform instruction opcode (.jump condition label) = (.ok (), engine.moved place) ∧
        (engine.current? = some instruction → engine.step = (.ok false, engine.moved place))) ∧
    (Operand.isRegisterShaped label.toList = true →
      instruction.decode file config = .error (.badOperand opcode (some label)
        (.notAllowed .register [.label]) (instruction.locate file (some label)))) := by
  constructor
  · intro hregister
    have hkind := Operand.classify_eq_label_iff.mpr ⟨isIdentifier_of_resolve? h hlabel, hregister⟩
    have hmnemonic : Opcode.ofMnemonic? instruction.opcode = some opcode := by
      simp [hopcode]
    have hdecode : ∀ file, instruction.decode file config = .ok (opcode, .jump condition label) :=
      fun file => Instruction.decode_eq_jump_iff.mpr ⟨hmnemonic, hcondition, hoperands, hkind⟩
    refine ⟨hdecode file, ?_⟩
    rintro engine rfl rfl hrunning hcap htaken
    refine ⟨Engine.perform_taken htaken hlabel hcap, ?_⟩
    intro hcurrent
    have hdecodes : engine.Decodes instruction opcode (.jump condition label) :=
      ⟨hrunning, hcurrent, hdecode _⟩
    exact hdecodes.step_taken htaken hlabel hcap
  · intro hregister
    exact Instruction.decode_of_register_shaped hopcode hcondition hoperands hregister

/-- The letter alone is no register, so a loop can be named by it. -/
theorem jump_reaches_letter : ∃ program instruction engine,
    assemble "count" "r: INC r0\nJNZ r\n" = .ok program ∧ program.resolve? "r" = some 0 ∧
    program.instructions[1]? = some instruction ∧
    instruction.decode "count" {} = .ok (.jnz, .jump .notZero "r") ∧
    ((Engine.new {}).install program).step = (.ok false, engine) ∧ engine.machine.pc = 1 ∧
    engine.step = (.ok false, engine.moved 0) := by
  let jump : Instruction := ⟨"JNZ", ["r"], 2, "JNZ r"⟩
  let program : Program := ⟨"count", #[⟨"INC", ["r0"], 1, "r: INC r0"⟩, jump], [⟨"r", 0, 1⟩]⟩
  have hassemble : assemble "count" "r: INC r0\nJNZ r\n" = .ok program := rfl
  have hlabel : program.resolve? "r" = some 0 := rfl
  have hcondition : Opcode.jnz.condition? = some .notZero := rfl
  have hopcode : jump.opcode = Opcode.jnz.mnemonic := rfl
  have hstep : ((Engine.new {}).install program).step = (.ok false, _) := rfl
  obtain ⟨hdecode, hjump⟩ :=
    (jump_reaches_label hassemble hlabel hcondition hopcode rfl "count" {}).1 rfl
  refine ⟨program, jump, _, hassemble, hlabel, rfl, hdecode, hstep, rfl, ?_⟩
  exact (hjump _ rfl rfl rfl (by decide) rfl).2 rfl

/-- A label of the shape of a register is defined, but the jump to it does not decode. -/
theorem register_shaped_label_unreachable : ∃ program instruction failure,
    assemble "loop" "r1: JMP r1\n" = .ok program ∧ program.resolve? "r1" = some 0 ∧
    program.instructions[0]? = some instruction ∧ instruction.opcode = "JMP" ∧
    instruction.operands = ["r1"] ∧ Config.validate {} = .ok () ∧
    failure = .badOperand .jmp (some "r1") (.notAllowed .register [.label]) ⟨"loop", 1, 1⟩ ∧
    instruction.decode "loop" {} = .error failure ∧
    ((Engine.new {}).install program).step.1 = .error failure := by
  exact ⟨_, _, _, rfl, rfl, rfl, rfl, rfl, rfl, rfl, rfl, rfl⟩

end Program

end RegisterMachine
