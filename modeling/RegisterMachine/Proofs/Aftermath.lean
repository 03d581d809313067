import RegisterMachine.Proofs.Check

/-!
What a failure leaves behind. A load that fails changes nothing, and neither does a step without a
program. Every other step that fails halts the machine and does nothing else, unless the cap is
exceeded: then the operation has taken effect and its cycle is counted, but control has not moved.
-/

namespace RegisterMachine.Engine

variable {engine after : Engine} {config : Config} {failure : Failure}

def withCap (engine : Engine) (cap : Nat) : Engine :=
  { engine with config := { engine.config with maxCycles := cap } }

theorem load_of_error {name source : String} (h : (engine.load name source).1 = .error failure) :
    (engine.load name source).2 = engine := by
  unfold load at h ⊢
  split at h
  · cases h
  · rfl

theorem running_of_error (h : engine.step.1 = .error failure) : engine.machine.halted = false := by
  cases hhalted : engine.machine.halted with
  | false => rfl
  | true =>
    rw [step_of_halted hhalted] at h
    cases h

theorem StepRule.eq_of_noProgram (h : engine.StepRule (.error .noProgram) after) :
    after = engine := by
  cases h with
  | noProgram => rfl
  | undecodable _ _ hdecode => cases Instruction.isStatic_of_decode hdecode

/-- A failure in front of the operation halts the machine. -/
theorem StepRule.eq_halt (h : engine.StepRule (.error failure) after)
    (hearly : failure.isStatic = true ∨
      ∃ pc size location, failure = .pcOutOfBounds pc size location) :
    after = engine.halt := by
  cases h with
  | pastEnd | undecodable | unresolved | stray => rfl
  | noProgram | capped =>
    rcases hearly with hstatic | ⟨_, _, _, hpast⟩
    · cases hstatic
    · cases hpast

/-- A step that exceeds the cap has performed its operation. -/
theorem StepRule.performs_of_cycleLimit {limit : Nat} {location : Location}
    (h : engine.StepRule (.error (.cycleLimit limit location)) after) :
    ∃ instruction opcode operation flow machine channel,
      engine.Performs instruction opcode operation flow machine channel ∧
      engine.config.maxCycles < machine.cycles + 1 ∧
      after = (engine.spent machine channel).halt := by
  cases h with
  | undecodable _ _ hdecode => cases Instruction.isStatic_of_decode hdecode
  | capped hperforms hcap => exact ⟨_, _, _, _, _, _, hperforms, hcap, rfl⟩

section
variable {instruction : Instruction} {opcode : Opcode} {operation : Operation} {flow : Flow}
variable {machine : Machine} {channel : Channel}

/-- The cap has no part in what an operation does. -/
theorem Performs.withCap (h : engine.Performs instruction opcode operation flow machine channel)
    (cap : Nat) :
    (engine.withCap cap).Performs instruction opcode operation flow machine channel where
  running := h.running
  current := h.current
  decoded := Instruction.decode_enlarge h.decoded (Nat.le_refl _) (Nat.le_refl _)
  flows := h.flows
  effect := h.effect

theorem Performs.step_withCap
    (h : engine.Performs instruction opcode operation flow machine channel) {cap : Nat}
    (hcap : machine.cycles < cap) : ∃ halted, (engine.withCap cap).step =
      (.ok halted, ((engine.withCap cap).spent machine channel).follow flow) := by
  have hunder : ¬ (engine.withCap cap).config.maxCycles < machine.cycles + 1 :=
    Nat.not_lt.mpr hcap
  rw [(h.withCap cap).step_eq, if_neg hunder]
  exact ⟨_, rfl⟩

end

/-- Moving control on changes the program counter or halts the machine, and nothing else. -/
theorem follow_eq (engine : Engine) (flow : Flow) : ∃ pc halted,
    engine.follow flow =
      { engine with machine := { engine.machine with pc := pc, halted := halted } } := by
  cases flow with
  | next => exact ⟨_, _, rfl⟩
  | jump target => exact ⟨target, _, rfl⟩
  | halt => exact ⟨_, true, rfl⟩

/-- What each failure leaves behind: a failed load and a missing program change nothing, a failure
in front of the operation halts the machine, and the cap halts it with the effect of the operation
in place. There are no other failures. -/
theorem state_after_failure (h : Reachable config engine) :
    (∀ name source failure, (engine.load name source).1 = .error failure →
      (engine.load name source).2 = engine) ∧
    (engine.step.1 = .error .noProgram →
      engine.step.2 = engine ∧ engine.machine.halted = false) ∧
    (∀ failure, engine.step.1 = .error failure →
      failure.isStatic = true ∨ (∃ pc size location, failure = .pcOutOfBounds pc size location) →
      engine.step.2 = engine.halt) ∧
    (∀ limit location, engine.step.1 = .error (.cycleLimit limit location) →
      engine.step.2.machine.halted = true ∧
      engine.step.2.machine.cycles = config.maxCycles + 1 ∧
      engine.step.2.machine.pc = engine.machine.pc ∧
      engine.step.2.program = engine.program ∧
      ∀ cap, config.maxCycles < cap →
        (∃ halted, (engine.withCap cap).step.1 = .ok halted) ∧
        engine.step.2.machine.registers = (engine.withCap cap).step.2.machine.registers ∧
        engine.step.2.machine.memory = (engine.withCap cap).step.2.machine.memory ∧
        engine.step.2.machine.flags = (engine.withCap cap).step.2.machine.flags ∧
        engine.step.2.channel = (engine.withCap cap).step.2.channel) ∧
    ∀ failure, engine.step.1 = .error failure →
      failure.isDynamic = true ∨ failure.isStatic = true := by
  obtain rfl := h.config_eq
  refine ⟨fun _ _ _ => load_of_error, ?_, ?_, ?_, ?_⟩
  · intro hstep
    exact ⟨(stepRule_of_error hstep).eq_of_noProgram, running_of_error hstep⟩
  · intro failure hstep hearly
    exact (stepRule_of_error hstep).eq_halt hearly
  · intro limit location hstep
    obtain ⟨_, _, _, flow, machine, channel, hperforms, hcap, hafter⟩ :=
      (stepRule_of_error hstep).performs_of_cycleLimit
    have hcycles : machine.cycles = engine.config.maxCycles := by
      have hrunning := h.sound.cycles_le_of_running hperforms.running
      rw [← hperforms.change.cycles] at hrunning
      omega
    rw [hafter]
    refine ⟨rfl, congrArg (· + 1) hcycles, hperforms.change.pc, rfl, ?_⟩
    intro cap hlarger
    obtain ⟨halted, hsame⟩ := hperforms.step_withCap (hcycles ▸ hlarger)
    obtain ⟨pc, stopped, hfollow⟩ := ((engine.withCap cap).spent machine channel).follow_eq flow
    rw [hsame, hfollow]
    exact ⟨⟨halted, rfl⟩, rfl, rfl, rfl, rfl⟩
  · intro failure hstep
    have hrule := stepRule_of_error hstep
    rcases hrule.error_cases with hdynamic | rfl | ⟨instruction, _, hproblem⟩
    · exact .inl hdynamic
    · cases hrule.isCrash_eq_false h.sound
    · exact .inr (Instruction.isStatic_of_problem? hproblem)

/-- A label that is defined twice, a step without a program, an operand that is no register, and a
word that is still written when the cap of one cycle is exceeded. -/
theorem state_after_some_failures :
    ((new {}).load "twice" "a:\na:\n").2 = new {} ∧
    (new {}).step.2 = new {} ∧
    ((new {}).serveAll [.load "cell" "INC @1\n"]).step.2 =
      ((new {}).serveAll [.load "cell" "INC @1\n"]).halt ∧
    ∃ engine : Engine, Reachable { maxCycles := 1 } engine ∧
      engine.step.2.machine.cycles = 2 ∧ engine.step.2.machine.pc = 1 ∧
      engine.step.2.channel = (engine.withCap 2).step.2.channel ∧
      engine.channel.output = #[] ∧ engine.step.2.channel.output = #[233] := by
  have hnew : Reachable {} (new {}) := ⟨new {}, [], rfl, rfl⟩
  have hcell : Reachable {} ((new {}).serveAll [.load "cell" "INC @1\n"]) := ⟨_, _, rfl, rfl⟩
  have hwrite : Reachable { maxCycles := 1 } ((new { maxCycles := 1 }).serveAll
      [.load "echo" "READ r0\nWRITE r0\n", .setInput "é", .step]) := ⟨_, _, rfl, rfl⟩
  obtain ⟨hload, hidle, _⟩ := state_after_failure hnew
  obtain ⟨_, hcycles, hpc, _, hlarger⟩ := (state_after_failure hwrite).2.2.2.1 1 _ rfl
  exact ⟨hload "twice" "a:\na:\n" _ rfl, (hidle rfl).1,
    (state_after_failure hcell).2.2.1 _ rfl (.inl rfl),
    _, hwrite, hcycles, hpc, (hlarger 2 (by decide)).2.2.2.2, rfl, rfl⟩

end RegisterMachine.Engine
