import RegisterMachine.Proofs.Assembly
import RegisterMachine.Proofs.Iteration
import RegisterMachine.Proofs.Step

/-!
Histories of an engine. A history is a list of requests, made of a new engine in any order and
whether or not they fail. `Engine.Sound` holds in every state of every history, and no request of a
history accesses anything outside the machine or cuts a token inside a character.
-/

namespace RegisterMachine

/-- What can be asked of an engine. -/
inductive Request where
  | load (name source : String)
  | setInput (text : String)
  | reset (clearMemory : Bool)
  | step
  | run
  deriving DecidableEq

/-- Whether a failure stands for an access outside the machine or for a cut inside a character,
after which no machine could go on. -/
def Failure.isCrash : Failure → Bool
  | strayAccess => true
  | badOperand _ _ .splitCharacter _ => true
  | _ => false

namespace Engine

variable {engine after : Engine} {result : Except Failure Bool} {config : Config}

def serve (engine : Engine) : Request → Except Failure Unit × Engine
  | .load name source => engine.load name source
  | .setInput text => (.ok (), engine.setInput text)
  | .reset clearMemory => (.ok (), engine.reset clearMemory)
  | .step => (engine.step.1.map fun _ => (), engine.step.2)
  | .run => (engine.run.1.map fun _ => (), engine.run.2)

def serveAll (engine : Engine) (requests : List Request) : Engine :=
  requests.foldl (fun engine request => (engine.serve request).2) engine

/-- The engine has a history that begins with a new engine of the configuration. -/
def Reachable (config : Config) (engine : Engine) : Prop :=
  ∃ start requests, new? config = .ok start ∧ start.serveAll requests = engine

/-- What holds of an engine at all times. -/
structure Sound (engine : Engine) : Prop where
  registers_size : engine.machine.registers.size = engine.config.registerCount
  memory_size : engine.machine.memory.size = engine.config.memorySize
  pc_le : engine.machine.pc ≤ engine.program.size
  target_le : ∀ label ∈ engine.program.labels, label.target ≤ engine.program.size
  cursor_le : engine.channel.cursor ≤ engine.channel.input.size
  flags_consistent : engine.machine.flags.Consistent
  cycles_le : engine.machine.cycles ≤ engine.config.maxCycles + 1
  /-- Only a halted machine has spent a cycle more than the cap allows. -/
  cycles_le_of_running : engine.machine.halted = false →
    engine.machine.cycles ≤ engine.config.maxCycles

theorem new?_eq_ok_iff :
    new? config = .ok engine ↔ config.validate = .ok () ∧ engine = new config := by
  unfold new?
  cases config.validate with
  | error fault => simp [Except.map]
  | ok _ => simp [Except.map, eq_comm]

theorem sound_new (config : Config) : (new config).Sound := by
  constructor <;> simp [new, Machine.new, Program.empty, Flags.Consistent]

theorem Sound.halt (h : engine.Sound) : engine.halt.Sound where
  registers_size := h.registers_size
  memory_size := h.memory_size
  pc_le := h.pc_le
  target_le := h.target_le
  cursor_le := h.cursor_le
  flags_consistent := h.flags_consistent
  cycles_le := h.cycles_le
  cycles_le_of_running := nofun

theorem Sound.reset (h : engine.Sound) (clearMemory : Bool) : (engine.reset clearMemory).Sound where
  registers_size := by simp [Engine.reset, Machine.reset, h.registers_size]
  memory_size := by
    cases clearMemory <;> simp [Engine.reset, Machine.reset, h.memory_size]
  pc_le := Nat.zero_le _
  target_le := h.target_le
  cursor_le := Nat.zero_le _
  flags_consistent := nofun
  cycles_le := Nat.zero_le _
  cycles_le_of_running _ := Nat.zero_le _

theorem Sound.setInput (h : engine.Sound) (text : String) : (engine.setInput text).Sound :=
  { h with cursor_le := Nat.zero_le _ }

theorem Sound.load (h : engine.Sound) (name source : String) :
    (engine.load name source).2.Sound := by
  unfold Engine.load
  split
  · rename_i program hprogram
    have hbare : ({ engine with program := program, machine := { engine.machine with pc := 0 } } :
        Engine).Sound :=
      { h with
        pc_le := Nat.zero_le _
        target_le := (Program.ordered_of_assemble hprogram).target_le }
    exact hbare.reset true
  · exact h

section
variable {instruction : Instruction} {opcode : Opcode} {operation : Operation} {flow : Flow}
variable {machine : Machine} {channel : Channel}

theorem Performs.sound_halt
    (hperforms : engine.Performs instruction opcode operation flow machine channel)
    (h : engine.Sound) : (engine.spent machine channel).halt.Sound where
  registers_size := hperforms.change.registers_size.trans h.registers_size
  memory_size := hperforms.change.memory_size.trans h.memory_size
  pc_le := hperforms.change.pc ▸ h.pc_le
  target_le := h.target_le
  cursor_le := hperforms.change.cursor_le h.cursor_le
  flags_consistent := hperforms.change.flags_consistent h.flags_consistent
  cycles_le := by
    have hcycles := h.cycles_le_of_running hperforms.running
    rw [← hperforms.change.cycles] at hcycles
    exact Nat.succ_le_succ hcycles
  cycles_le_of_running := nofun

theorem Performs.pc_le
    (hperforms : engine.Performs instruction opcode operation flow machine channel)
    (h : engine.Sound) :
    ((engine.spent machine channel).follow flow).machine.pc ≤ engine.program.size := by
  have hpc : machine.pc = engine.machine.pc := hperforms.change.pc
  cases flow with
  | next =>
    obtain ⟨hlt, _⟩ := Array.getElem?_eq_some_iff.mp hperforms.current
    rw [← hpc] at hlt
    exact hlt
  | jump target =>
    obtain ⟨label, hlabel⟩ := Operation.flow_eq_jump hperforms.flows
    exact Program.target_le_of_resolve? h.target_le hlabel
  | halt =>
    have hle := h.pc_le
    rw [← hpc] at hle
    exact hle

theorem Performs.sound_follow
    (hperforms : engine.Performs instruction opcode operation flow machine channel)
    (hcap : machine.cycles + 1 ≤ engine.config.maxCycles) (h : engine.Sound) :
    ((engine.spent machine channel).follow flow).Sound := by
  have hhalt := hperforms.sound_halt h
  have hpc := hperforms.pc_le h
  cases flow with
  | next => exact { hhalt with pc_le := hpc, cycles_le_of_running := fun _ => hcap }
  | jump target => exact { hhalt with pc_le := hpc, cycles_le_of_running := fun _ => hcap }
  | halt => exact hhalt

end

theorem StepRule.sound (hrule : engine.StepRule result after) (h : engine.Sound) : after.Sound := by
  cases hrule with
  | idle | noProgram => exact h
  | pastEnd | undecodable | unresolved | stray => exact h.halt
  | capped hperforms => exact hperforms.sound_halt h
  | performed hperforms hcap => exact hperforms.sound_follow hcap h

/-- What a load, an input, a reset and a step keep, a history keeps. -/
theorem serve_induction {P : Engine → Prop} (hload : ∀ engine name source, P engine →
      P (engine.load name source).2)
    (hinput : ∀ engine text, P engine → P (engine.setInput text))
    (hreset : ∀ engine clearMemory, P engine → P (engine.reset clearMemory))
    (hstep : ∀ engine, P engine → P engine.step.2) (request : Request) (h : P engine) :
    P (engine.serve request).2 := by
  cases request with
  | load name source => exact hload engine name source h
  | setInput text => exact hinput engine text h
  | reset clearMemory => exact hreset engine clearMemory h
  | step => exact hstep engine h
  | run => simpa [serve] using stepped_induction hstep h engine.calls

theorem Sound.serve (h : engine.Sound) (request : Request) : (engine.serve request).2.Sound :=
  serve_induction (fun _ name source h => h.load name source) (fun _ text h => h.setInput text)
    (fun _ clearMemory h => h.reset clearMemory) (fun engine h => engine.stepRule.sound h) request h

@[simp] theorem load_config (engine : Engine) (name source : String) :
    (engine.load name source).2.config = engine.config := by
  unfold load
  split <;> rfl

@[simp] theorem serve_config (engine : Engine) (request : Request) :
    (engine.serve request).2.config = engine.config :=
  serve_induction (P := fun after => after.config = engine.config)
    (fun _ _ _ h => (load_config _ _ _).trans h) (fun _ _ h => h) (fun _ _ h => h)
    (fun engine h => engine.stepRule.config.trans h) request rfl

/-- Whatever holds of a new engine and is kept by every request holds of a reachable engine. -/
theorem Reachable.induction {P : Engine → Prop} (hnew : P (new config))
    (hserve : ∀ engine request, P engine → P (engine.serve request).2)
    (h : Reachable config engine) : P engine := by
  obtain ⟨start, requests, hstart, rfl⟩ := h
  rw [(new?_eq_ok_iff.mp hstart).2]
  clear hstart
  -- The induction on the history needs the statement for any engine to start from.
  generalize new config = engine at hnew
  induction requests generalizing engine with
  | nil => exact hnew
  | cons request rest ih => exact ih _ (hserve engine request hnew)

theorem Reachable.sound (h : Reachable config engine) : engine.Sound :=
  h.induction (sound_new config) fun _ request h => h.serve request

theorem Reachable.config_eq (h : Reachable config engine) : engine.config = config :=
  h.induction (P := fun engine => engine.config = config) rfl
    fun engine request h => (engine.serve_config request).trans h

theorem Sound.within {instruction : Instruction} {opcode : Opcode} {operation : Operation}
    (h : engine.Sound)
    (hdecode : instruction.decode engine.program.name engine.config = .ok (opcode, operation)) :
    operation.Within engine.machine.registers.size engine.machine.memory.size := by
  rw [h.registers_size, h.memory_size]
  exact Instruction.decode_within hdecode

theorem StepRule.isCrash_eq_false {failure : Failure}
    (hrule : engine.StepRule (.error failure) after) (h : engine.Sound) :
    failure.isCrash = false := by
  cases hrule with
  | noProgram | pastEnd | unresolved | capped => rfl
  | undecodable _ _ hdecode =>
    rcases Instruction.decode_eq_error hdecode with rfl | ⟨opcode, token, fault, _, hfault, rfl⟩
    · rfl
    · cases fault with
      | splitCharacter => exact absurd rfl hfault
      | _ => rfl
  | stray hdecodes heffect =>
    have hsome : (engine.machine.effect? engine.channel _).isSome = true :=
      Machine.isSome_effect?_iff.mpr (h.within hdecodes.decoded)
    rw [heffect] at hsome
    cases hsome

theorem stepped_sound (h : engine.Sound) (count : Nat) : (engine.stepped count).Sound :=
  stepped_induction (fun engine h => engine.stepRule.sound h) h count

theorem Sound.isCrash_eq_false_of_serve (h : engine.Sound) {request : Request} {failure : Failure}
    (hserve : (engine.serve request).1 = .error failure) : failure.isCrash = false := by
  cases request with
  | load name source =>
    simp only [Engine.serve, Engine.load] at hserve
    split at hserve
    · cases hserve
    · cases hserve
      rfl
  | setInput text | reset clearMemory => cases hserve
  | step =>
    have hstep : engine.step.1 = .error failure := map_eq_error_iff.mp hserve
    exact (stepRule_of_error hstep).isCrash_eq_false h
  | run =>
    have hrun : engine.run.1 = .error failure := map_eq_error_iff.mp hserve
    obtain ⟨count, _, _, _, hstep⟩ := run_eq_error_cases (by rw [← hrun])
    exact (stepRule_of_error hstep).isCrash_eq_false (stepped_sound h count)

/-- The sizes, the bounds and the counters are right in every reachable state, every access of a
decoded operation is inside the machine, every token is cut between characters, and so no request
ends in a crash. -/
theorem sound_and_no_crash_of_reachable (h : Reachable config engine) :
    engine.config = config ∧ engine.Sound ∧
    (∀ instruction opcode operation,
      Instruction.decode instruction engine.program.name config = .ok (opcode, operation) →
      operation.Within engine.machine.registers.size engine.machine.memory.size ∧
      (engine.machine.effect? engine.channel operation).isSome = true) ∧
    (∀ request failure, (engine.serve request).1 = .error failure → failure.isCrash = false) ∧
    ∀ token : String,
      (Operand.classify token.toList = .register →
        Text.Sliceable token 1 token.utf8ByteSize) ∧
      (Operand.classify token.toList = .memory → Text.Sliceable token 1 token.utf8ByteSize) ∧
      (Operand.isQuoted token.toList = true → 2 ≤ token.utf8ByteSize →
        Text.Sliceable token 1 (token.utf8ByteSize - 1)) := by
  obtain rfl := h.config_eq
  refine ⟨rfl, h.sound, ?_, ?_, ?_⟩
  · intro instruction opcode operation hdecode
    have hwithin := h.sound.within hdecode
    exact ⟨hwithin, Machine.isSome_effect?_iff.mpr hwithin⟩
  · exact fun request failure hserve => h.sound.isCrash_eq_false_of_serve hserve
  · intro token
    exact ⟨Operand.sliceable_of_classify_register, Operand.sliceable_of_classify_memory,
      Operand.sliceable_of_isQuoted⟩

/-- A history with a load, a step and a run that fail. -/
theorem sound_after_failures :
    ((new {}).serveAll [.load "twice" "a:\na:\n", .step, .load "away" "READ r0\nJMP away\n",
      .setInput "é", .run]).Sound :=
  (sound_and_no_crash_of_reachable (⟨new {}, _, rfl, rfl⟩ : Reachable {} _)).2.1

end Engine

end RegisterMachine
