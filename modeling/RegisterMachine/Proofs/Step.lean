import RegisterMachine.Machine.Engine
import RegisterMachine.Proofs.Execution

/-!
The rules of a step. `StepRule` lists everything that one step can do and what it needs for that.
A step follows one of the rules, and does what any rule says that applies.
-/

namespace RegisterMachine

variable {operation : Operation} {opcode : Opcode} {instruction : Instruction}

section
variable {program : Program} {flags : Flags}

/-- Only a taken jump to a missing label has nowhere to go. -/
theorem Operation.flow_eq_error {failure : Failure}
    (h : operation.flow opcode instruction program flags = .error failure) :
    ∃ condition label, operation = .jump condition label ∧ condition.holds flags = true ∧
      program.resolve? label = none ∧
      failure = .unknownLabel opcode label (instruction.locate program.name (some label)) := by
  cases operation with
  | jump condition label =>
    simp only [flow] at h
    split at h
    · split at h
      · cases h
      · exact ⟨condition, label, rfl, ‹_›, ‹_›, (Except.error.inj h).symm⟩
    · cases h
  | _ => cases h

theorem Operation.flow_eq_jump {target : Nat}
    (h : operation.flow opcode instruction program flags = .ok (.jump target)) :
    ∃ label, program.resolve? label = some target := by
  cases operation with
  | jump condition label =>
    simp only [flow] at h
    split at h
    · split at h
      · cases h
        exact ⟨label, ‹_›⟩
      · cases h
    · cases h
  | _ => cases h

end

namespace Engine

variable {engine after : Engine} {result : Except Failure Bool} {flow : Flow}
variable {machine : Machine} {channel : Channel} {next : Nat → Nat}

/-- The engine runs, and this operation is next. -/
structure Decodes (engine : Engine) (instruction : Instruction) (opcode : Opcode)
    (operation : Operation) : Prop where
  running : engine.machine.halted = false
  current : engine.current? = some instruction
  decoded : instruction.decode engine.program.name engine.config = .ok (opcode, operation)

/-- The next operation leads to this machine and channel, and control then flows there. -/
structure Performs (engine : Engine) (instruction : Instruction) (opcode : Opcode)
    (operation : Operation) (flow : Flow) (machine : Machine) (channel : Channel) : Prop
    extends Decodes engine instruction opcode operation where
  flows : operation.flow opcode instruction engine.program engine.machine.flags = .ok flow
  effect : engine.machine.effect? engine.channel operation = some (machine, channel)

def spent (engine : Engine) (machine : Machine) (channel : Channel) : Engine :=
  engine.spentWith (· + 1) machine channel

@[simp] theorem follow_config (engine : Engine) (flow : Flow) :
    (engine.follow flow).config = engine.config := by
  cases flow <;> rfl

@[simp] theorem follow_program (engine : Engine) (flow : Flow) :
    (engine.follow flow).program = engine.program := by
  cases flow <;> rfl

@[simp] theorem follow_channel (engine : Engine) (flow : Flow) :
    (engine.follow flow).channel = engine.channel := by
  cases flow <;> rfl

@[simp] theorem follow_cycles (engine : Engine) (flow : Flow) :
    (engine.follow flow).machine.cycles = engine.machine.cycles := by
  cases flow <;> rfl

/-- Everything that one step can do. -/
inductive StepRule (engine : Engine) : Except Failure Bool → Engine → Prop where
  | idle : engine.machine.halted = true → StepRule engine (.ok true) engine
  | noProgram : engine.machine.halted = false → engine.program.isEmpty = true →
      StepRule engine (.error .noProgram) engine
  | pastEnd : engine.machine.halted = false → engine.program.isEmpty = false →
      engine.current? = none →
      StepRule engine (.error (.pcOutOfBounds engine.machine.pc engine.program.size
        (engine.program.instructions.back?.map (·.locate engine.program.name none)))) engine.halt
  | undecodable {instruction : Instruction} {failure : Failure} :
      engine.machine.halted = false → engine.current? = some instruction →
      instruction.decode engine.program.name engine.config = .error failure →
      StepRule engine (.error failure) engine.halt
  | unresolved {instruction : Instruction} {opcode : Opcode} {condition : Condition}
      {label : String} : engine.Decodes instruction opcode (.jump condition label) →
      condition.holds engine.machine.flags = true → engine.program.resolve? label = none →
      StepRule engine (.error (.unknownLabel opcode label
        (instruction.locate engine.program.name (some label)))) engine.halt
  | stray {instruction : Instruction} {opcode : Opcode} {operation : Operation} :
      engine.Decodes instruction opcode operation →
      engine.machine.effect? engine.channel operation = none →
      StepRule engine (.error .strayAccess) engine.halt
  | capped {instruction : Instruction} {opcode : Opcode} {operation : Operation} {flow : Flow}
      {machine : Machine} {channel : Channel} :
      engine.Performs instruction opcode operation flow machine channel →
      engine.config.maxCycles < machine.cycles + 1 →
      StepRule engine (.error (.cycleLimit engine.config.maxCycles
        (instruction.locate engine.program.name none))) (engine.spent machine channel).halt
  | performed {instruction : Instruction} {opcode : Opcode} {operation : Operation} {flow : Flow}
      {machine : Machine} {channel : Channel} :
      engine.Performs instruction opcode operation flow machine channel →
      machine.cycles + 1 ≤ engine.config.maxCycles →
      StepRule engine (.ok ((engine.spent machine channel).follow flow).machine.halted)
        ((engine.spent machine channel).follow flow)

theorem isEmpty_of_current? (h : engine.current? = some instruction) :
    engine.program.isEmpty = false := by
  obtain ⟨hpc, _⟩ := Array.getElem?_eq_some_iff.mp h
  simp only [Program.isEmpty, Array.isEmpty_eq_false_iff, ne_eq]
  rintro hinstructions
  simp [hinstructions] at hpc

theorem Decodes.advanceWith_eq (h : engine.Decodes instruction opcode operation) :
    engine.advanceWith next = engine.performWith next instruction opcode operation := by
  simp only [advanceWith, h.current, h.decoded]

theorem Performs.performWith_eq
    (h : engine.Performs instruction opcode operation flow machine channel) :
    engine.performWith next instruction opcode operation =
      if engine.config.maxCycles < next machine.cycles then
        (.error (.cycleLimit engine.config.maxCycles
          (instruction.locate engine.program.name none)), engine.spentWith next machine channel)
      else (.ok (), (engine.spentWith next machine channel).follow flow) := by
  simp only [performWith, h.flows, h.effect]

/-- A running engine with a program does what advancing does, and halts if that fails. -/
theorem stepWith_eq_of_running (hrunning : engine.machine.halted = false)
    (hprogram : engine.program.isEmpty = false) :
    engine.stepWith next =
      match engine.advanceWith next with
      | (.error failure, after) => (.error failure, after.halt)
      | (.ok (), after) => (.ok after.machine.halted, after) := by
  have hstays : ¬ engine.machine.halted = true := by simp [hrunning]
  have hempty : ¬ engine.program.isEmpty = true := by simp [hprogram]
  exact (if_neg hstays).trans (if_neg hempty)

theorem Decodes.stepWith_eq (h : engine.Decodes instruction opcode operation) :
    engine.stepWith next =
      match engine.performWith next instruction opcode operation with
      | (.error failure, after) => (.error failure, after.halt)
      | (.ok (), after) => (.ok after.machine.halted, after) := by
  rw [stepWith_eq_of_running h.running (isEmpty_of_current? h.current), h.advanceWith_eq]

/-- An operation that is performed takes effect in any case; the cap decides on what follows. -/
theorem Performs.stepWith_eq
    (h : engine.Performs instruction opcode operation flow machine channel) :
    engine.stepWith next =
      if engine.config.maxCycles < next machine.cycles then
        (.error (.cycleLimit engine.config.maxCycles
          (instruction.locate engine.program.name none)),
          (engine.spentWith next machine channel).halt)
      else (.ok ((engine.spentWith next machine channel).follow flow).machine.halted,
        (engine.spentWith next machine channel).follow flow) := by
  rw [h.toDecodes.stepWith_eq, h.performWith_eq]
  by_cases hcap : engine.config.maxCycles < next machine.cycles
  · simp only [hcap, ite_true]
  · simp only [hcap, ite_false]

theorem Performs.step_eq (h : engine.Performs instruction opcode operation flow machine channel) :
    engine.step =
      if engine.config.maxCycles < machine.cycles + 1 then
        (.error (.cycleLimit engine.config.maxCycles
          (instruction.locate engine.program.name none)), (engine.spent machine channel).halt)
      else (.ok ((engine.spent machine channel).follow flow).machine.halted,
        (engine.spent machine channel).follow flow) :=
  h.stepWith_eq

theorem Decodes.stepRule (h : engine.Decodes instruction opcode operation)
    (hstep : engine.step = (result, after)) : engine.StepRule result after := by
  cases hflow : operation.flow opcode instruction engine.program engine.machine.flags with
  | error failure =>
    obtain ⟨condition, label, rfl, htaken, hlabel, rfl⟩ := Operation.flow_eq_error hflow
    rw [step, h.stepWith_eq] at hstep
    simp only [performWith, hflow] at hstep
    cases hstep
    exact .unresolved h htaken hlabel
  | ok flow =>
    cases heffect : engine.machine.effect? engine.channel operation with
    | none =>
      rw [step, h.stepWith_eq] at hstep
      simp only [performWith, hflow, heffect] at hstep
      cases hstep
      exact .stray h heffect
    | some effect =>
      have hperforms : engine.Performs instruction opcode operation flow effect.1 effect.2 :=
        ⟨h, hflow, heffect⟩
      rw [hperforms.step_eq] at hstep
      split at hstep
      · cases hstep
        exact .capped hperforms ‹_›
      · cases hstep
        exact .performed hperforms (by omega)

theorem stepRule_of_step (hstep : engine.step = (result, after)) :
    engine.StepRule result after := by
  cases hhalted : engine.machine.halted with
  | true =>
    simp only [step, stepWith, hhalted, ite_true] at hstep
    cases hstep
    exact .idle hhalted
  | false =>
    cases hprogram : engine.program.isEmpty with
    | true =>
      simp only [step, stepWith, hhalted, hprogram, Bool.false_eq_true, ite_false, ite_true]
        at hstep
      cases hstep
      exact .noProgram hhalted hprogram
    | false =>
      cases hcurrent : engine.current? with
      | none =>
        simp only [step, stepWith_eq_of_running hhalted hprogram, advanceWith, hcurrent] at hstep
        cases hstep
        exact .pastEnd hhalted hprogram hcurrent
      | some instruction =>
        cases hdecode : instruction.decode engine.program.name engine.config with
        | error failure =>
          simp only [step, stepWith_eq_of_running hhalted hprogram, advanceWith, hcurrent, hdecode]
            at hstep
          cases hstep
          exact .undecodable hhalted hcurrent hdecode
        | ok decoded => exact Decodes.stepRule ⟨hhalted, hcurrent, hdecode⟩ hstep

theorem stepRule (engine : Engine) : engine.StepRule engine.step.1 engine.step.2 :=
  stepRule_of_step rfl

theorem stepRule_of_error {failure : Failure} (h : engine.step.1 = .error failure) :
    engine.StepRule (.error failure) engine.step.2 :=
  h ▸ engine.stepRule

/-- The rules exclude one another, so a step does what any rule says that applies. -/
theorem StepRule.step_eq (h : engine.StepRule result after) : engine.step = (result, after) := by
  cases h with
  | idle hhalted => simp only [step, stepWith, hhalted, ite_true]
  | noProgram hrunning hprogram =>
    simp only [step, stepWith, hrunning, hprogram, Bool.false_eq_true, ite_false, ite_true]
  | pastEnd hrunning hprogram hcurrent =>
    simp only [step, stepWith_eq_of_running hrunning hprogram, advanceWith, hcurrent]
  | undecodable hrunning hcurrent hdecode =>
    simp only [step, stepWith_eq_of_running hrunning (isEmpty_of_current? hcurrent), advanceWith,
      hcurrent, hdecode]
  | unresolved h htaken hlabel =>
    simp only [step, h.stepWith_eq, performWith, Operation.flow, htaken, hlabel, ite_true]
  | @stray instruction opcode operation h heffect =>
    rw [step, h.stepWith_eq]
    cases hflow : operation.flow opcode instruction engine.program engine.machine.flags with
    | error failure =>
      -- A jump that cannot be followed has an effect, namely none.
      obtain ⟨_, _, rfl, _⟩ := Operation.flow_eq_error hflow
      cases heffect
    | ok flow => simp only [performWith, hflow, heffect]
  | capped hperforms hcap => rw [hperforms.step_eq, if_pos hcap]
  | performed hperforms hcap => rw [hperforms.step_eq, if_neg (Nat.not_lt.mpr hcap)]

theorem StepRule.config (h : engine.StepRule result after) : after.config = engine.config := by
  cases h <;> simp [halt, spent, spentWith]

theorem StepRule.program (h : engine.StepRule result after) :
    after.program = engine.program := by
  cases h <;> simp [halt, spent, spentWith]

theorem Performs.acts
    (h : engine.Performs instruction opcode operation flow machine channel) :
    Machine.Acts engine.machine engine.channel operation machine channel :=
  Machine.acts_of_effect? h.effect

theorem Performs.change
    (h : engine.Performs instruction opcode operation flow machine channel) :
    Machine.Effect engine.machine engine.channel machine channel :=
  h.acts.effect

/-- A successful step of a running machine spends one cycle and leaves the cap unexceeded. -/
theorem StepRule.cycles_of_ok {halted : Bool} (h : engine.StepRule (.ok halted) after)
    (hrunning : engine.machine.halted = false) :
    after.machine.cycles = engine.machine.cycles + 1 ∧
      after.machine.cycles ≤ engine.config.maxCycles := by
  cases h with
  | idle hhalted => cases hrunning.symm.trans hhalted
  | performed hperforms hcap =>
    rw [follow_cycles]
    exact ⟨congrArg (· + 1) hperforms.change.cycles, hcap⟩

/-- Counters that count alike where something is counted lead to the same. -/
theorem Decodes.performWith_eq (hdecodes : engine.Decodes instruction opcode operation)
    (h : ∀ {flow machine channel},
      engine.Performs instruction opcode operation flow machine channel →
      next machine.cycles = machine.cycles + 1) :
    engine.performWith next instruction opcode operation =
      engine.perform instruction opcode operation := by
  cases hflow : operation.flow opcode instruction engine.program engine.machine.flags with
  | error failure => simp only [perform, performWith, hflow]
  | ok flow =>
    cases heffect : engine.machine.effect? engine.channel operation with
    | none => simp only [perform, performWith, hflow, heffect]
    | some effect =>
      have hnext := h ⟨hdecodes, hflow, heffect⟩
      simp only [perform, performWith, hflow, heffect, spentWith, hnext]

theorem stepWith_eq_step
    (h : ∀ {instruction opcode operation flow machine channel},
      engine.Performs instruction opcode operation flow machine channel →
      next machine.cycles = machine.cycles + 1) :
    engine.stepWith next = engine.step := by
  cases hhalted : engine.machine.halted with
  | true => simp only [step, stepWith, hhalted, ite_true]
  | false =>
    cases hcurrent : engine.current? with
    | none => simp only [step, stepWith, advanceWith, hcurrent]
    | some instruction =>
      cases hdecode : instruction.decode engine.program.name engine.config with
      | error failure => simp only [step, stepWith, advanceWith, hcurrent, hdecode]
      | ok decoded =>
        have hdecodes : engine.Decodes instruction decoded.1 decoded.2 :=
          ⟨hhalted, hcurrent, hdecode⟩
        rw [step, hdecodes.stepWith_eq, hdecodes.stepWith_eq, hdecodes.performWith_eq h, perform]

/-- A step that succeeds is counted alike by every counter that goes on by one up to the cap. -/
theorem stepWith_of_ok {halted : Bool}
    (hnext : ∀ count < engine.config.maxCycles, next count = count + 1)
    (hstep : engine.step = (.ok halted, after)) : engine.stepWith next = (.ok halted, after) := by
  rw [← hstep]
  apply stepWith_eq_step
  intro instruction opcode operation flow machine channel hperforms
  rw [hperforms.step_eq] at hstep
  split at hstep
  · cases hstep
  · exact hnext _ (by omega)

end Engine

end RegisterMachine
