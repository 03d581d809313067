import RegisterMachine.Proofs.Permission
import RegisterMachine.Proofs.Run

/-!
What one step changes and what it leaves alone. `Changes` says it of every part of the machine and
of the channel, `Moves` of control. A step that succeeds follows both and counts one cycle.
-/

namespace RegisterMachine

namespace Machine

variable {machine after : Machine} {channel received : Channel} {operation : Operation}

/-- What an operation changes, part by part. -/
structure Changes (operation : Operation) (machine : Machine) (channel : Channel) (after : Machine)
    (received : Channel) : Prop where
  register : ∀ index, operation.dest? ≠ some index →
    after.readRegister? index = machine.readRegister? index
  dest : ∀ index, operation.dest? = some index → ∃ value, after.readRegister? index = some value ∧
    (after.flags.zero = true ↔ value.toInt = 0) ∧ (after.flags.negative = true ↔ value.toInt < 0)
  flags : operation.dest? = none → (∀ left right, operation ≠ .cmp left right) →
    after.flags = machine.flags
  memory : ∀ address, (∀ src, operation ≠ .store src address) →
    after.memory[address]? = machine.memory[address]?
  stored : ∀ src address, operation = .store src address → ∃ value byte,
    machine.readRegister? src = some value ∧ after.memory[address]? = some byte ∧
      (byte.toNat : Int) = value.toInt % 256
  output : (∀ src, operation ≠ .write src) → received.output = channel.output
  written : ∀ src, operation = .write src → ∃ value code,
    machine.readRegister? src = some value ∧ received.output = channel.output.push code ∧
      (code.toNat : Int) = value.toInt % 65536
  input : received.input = channel.input
  cursor : (∀ dest, operation ≠ .read dest) → received.cursor = channel.cursor
  taken : ∀ dest, operation = .read dest → received.cursor =
    if channel.cursor < channel.input.size then channel.cursor + 1 else channel.cursor

namespace Acts

theorem register {index : Nat} (h : Acts machine channel operation after received)
    (hindex : operation.dest? ≠ some index) :
    after.readRegister? index = machine.readRegister? index := by
  cases h with
  | compute hdest =>
    apply readRegister?_setRegister_of_ne
    rintro rfl
    exact hindex hdest
  | read =>
    apply readRegister?_setRegister_of_ne
    rintro rfl
    exact hindex rfl
  | store | cmp | write | jump | halt => rfl

theorem dest {index : Nat} (h : Acts machine channel operation after received)
    (hindex : operation.dest? = some index) :
    ∃ value, after.readRegister? index = some value ∧ after.flags = Flags.ofInt value.toInt := by
  cases h with
  | compute hdest _ hbound =>
    obtain rfl := Option.some.inj (hdest.symm.trans hindex)
    exact ⟨_, readRegister?_setRegister hbound _, rfl⟩
  | read hbound =>
    obtain rfl := Option.some.inj hindex
    exact ⟨_, readRegister?_setRegister hbound _, rfl⟩
  | store | cmp | write | jump | halt => cases hindex

theorem flags (h : Acts machine channel operation after received)
    (hdest : operation.dest? = none) (hcmp : ∀ left right, operation ≠ .cmp left right) :
    after.flags = machine.flags := by
  cases h with
  | compute hsome => cases hsome.symm.trans hdest
  | read => cases hdest
  | cmp => exact absurd rfl (hcmp _ _)
  | store | write | jump | halt => rfl

theorem memory {address : Nat} (h : Acts machine channel operation after received)
    (haddress : ∀ src, operation ≠ .store src address) :
    after.memory[address]? = machine.memory[address]? := by
  cases h with
  | store =>
    apply getElem?_setMemory_of_ne
    rintro rfl
    exact haddress _ rfl
  | compute | read | cmp | write | jump | halt => rfl

theorem stored {src address : Nat} (h : Acts machine channel (.store src address) after received) :
    ∃ value, machine.readRegister? src = some value ∧
      after.memory[address]? = some value.toUInt32.toUInt8 := by
  cases h with
  | compute hdest => cases hdest
  | store hsrc hbound => exact ⟨_, hsrc, getElem?_setMemory hbound _⟩

theorem output (h : Acts machine channel operation after received)
    (hwrite : ∀ src, operation ≠ .write src) : received.output = channel.output := by
  cases h with
  | write => exact absurd rfl (hwrite _)
  | read => simp
  | compute | store | cmp | jump | halt => rfl

theorem written {src : Nat} (h : Acts machine channel (.write src) after received) :
    ∃ value, machine.readRegister? src = some value ∧
      received.output = channel.output.push value.toUInt32.toUInt16 := by
  cases h with
  | compute hdest => cases hdest
  | write hsrc => exact ⟨_, hsrc, rfl⟩

theorem cursor (h : Acts machine channel operation after received)
    (hread : ∀ dest, operation ≠ .read dest) : received.cursor = channel.cursor := by
  cases h with
  | read => exact absurd rfl (hread _)
  | compute | store | cmp | write | jump | halt => rfl

theorem taken {dest : Nat} (h : Acts machine channel (.read dest) after received) :
    received.cursor =
      if channel.cursor < channel.input.size then channel.cursor + 1 else channel.cursor := by
  cases h with
  | compute _ hread => exact absurd rfl (hread dest)
  | read => exact channel.cursor_read

theorem changes (h : Acts machine channel operation after received) :
    Changes operation machine channel after received where
  register _ := h.register
  dest index hindex := by
    obtain ⟨value, hvalue, hflags⟩ := h.dest hindex
    rw [hflags]
    exact ⟨value, hvalue, Flags.zero_ofInt, Flags.negative_ofInt⟩
  flags := h.flags
  memory _ := h.memory
  stored src address hstore := by
    subst hstore
    obtain ⟨value, hsrc, hbyte⟩ := h.stored
    exact ⟨value, _, hsrc, hbyte, toNat_toUInt8_word value⟩
  output := h.output
  written src hwrite := by
    subst hwrite
    obtain ⟨value, hsrc, houtput⟩ := h.written
    exact ⟨value, _, hsrc, houtput, toNat_toUInt16_word value⟩
  input := h.effect.input_eq
  cursor := h.cursor
  taken dest hread := by
    subst hread
    exact h.taken

end Acts

end Machine

namespace Operation

variable {operation : Operation} {opcode : Opcode} {instruction : Instruction} {program : Program}
variable {flags : Flags} {flow : Flow}

/-- Control stays at a halt, goes to the label of a jump that is taken, and else to the next
instruction. -/
theorem flow_cases (h : operation.flow opcode instruction program flags = .ok flow) :
    (operation = .halt ∧ flow = .halt) ∨
    (∃ condition label target, operation = .jump condition label ∧
      condition.holds flags = true ∧ program.resolve? label = some target ∧
      flow = .jump target) ∨
    (operation ≠ .halt ∧
      (∀ condition label, operation = .jump condition label → condition.holds flags = false) ∧
      flow = .next) := by
  cases operation with
  | jump condition label =>
    right
    simp only [Operation.flow] at h
    cases htaken : condition.holds flags with
    | true =>
      rw [htaken, if_pos rfl] at h
      cases hlabel : program.resolve? label with
      | none =>
        rw [hlabel] at h
        cases h
      | some target =>
        rw [hlabel] at h
        exact .inl ⟨condition, label, target, rfl, htaken, hlabel, (Except.ok.inj h).symm⟩
    | false =>
      rw [htaken, if_neg Bool.false_ne_true] at h
      right
      refine ⟨?_, ?_, (Except.ok.inj h).symm⟩
      · intro hhalt
        cases hhalt
      · intro _ _ hjump
        cases hjump
        exact htaken
  | halt => exact .inl ⟨rfl, (Except.ok.inj h).symm⟩
  | _ =>
    right
    right
    refine ⟨?_, ?_, (Except.ok.inj h).symm⟩
    · intro hhalt
      cases hhalt
    · intro _ _ hjump
      cases hjump

end Operation

namespace Engine

variable {engine after : Engine} {instruction : Instruction} {opcode : Opcode}
variable {operation : Operation} {flow : Flow} {machine : Machine} {channel : Channel}

/-- Where an operation moves control. -/
structure Moves (operation : Operation) (engine after : Engine) : Prop where
  halted : after.machine.halted = true ↔ operation = .halt
  stays : operation = .halt → after.machine.pc = engine.machine.pc
  jumps : ∀ condition label, operation = .jump condition label →
    condition.holds engine.machine.flags = true →
    engine.program.resolve? label = some after.machine.pc
  proceeds : operation ≠ .halt →
    (∀ condition label, operation = .jump condition label →
      condition.holds engine.machine.flags = false) →
    after.machine.pc = engine.machine.pc + 1

theorem Performs.moves
    (h : engine.Performs instruction opcode operation flow machine channel) :
    Moves operation engine ((engine.spent machine channel).follow flow) := by
  have hpc : machine.pc = engine.machine.pc := h.change.pc
  have hrunning : ¬ machine.halted = true := by
    rw [h.change.halted, h.running]
    exact Bool.false_ne_true
  rcases Operation.flow_cases h.flows with ⟨rfl, rfl⟩ | ⟨condition, label, target, rfl, htaken,
    hlabel, rfl⟩ | ⟨hhalt, hjump, rfl⟩
  · exact ⟨iff_of_true rfl rfl, fun _ => hpc, nofun, fun hne => absurd rfl hne⟩
  · refine ⟨iff_of_false hrunning nofun, nofun, ?_, ?_⟩
    · intro _ _ hsame _
      cases hsame
      exact hlabel
    · intro _ hjump
      cases htaken.symm.trans (hjump condition label rfl)
  · refine ⟨iff_of_false hrunning hhalt, fun hsame => absurd hsame hhalt, ?_, ?_⟩
    · intro condition label hsame htaken
      cases htaken.symm.trans (hjump condition label hsame)
    · intro _ _
      exact congrArg (· + 1) hpc

theorem Performs.changes
    (h : engine.Performs instruction opcode operation flow machine channel) :
    Machine.Changes operation engine.machine engine.channel
      ((engine.spent machine channel).follow flow).machine
      ((engine.spent machine channel).follow flow).channel := by
  have hchanges := h.acts.changes
  cases flow <;> exact { hchanges with }

theorem Decodes.operation_eq {found : Instruction} {other : Opcode} {result : Operation}
    (h : engine.Decodes instruction opcode operation)
    (hfound : engine.Decodes found other result) : operation = result := by
  obtain rfl := Option.some.inj (h.current.symm.trans hfound.current)
  exact (Prod.mk.inj (Except.ok.inj (h.decoded.symm.trans hfound.decoded))).2

/-- A step that succeeds executes the instruction at the program counter. It counts one cycle, keeps
the configuration and the program, and changes what its operation changes. -/
theorem step_changes {halted : Bool} (hrunning : engine.machine.halted = false)
    (hstep : engine.step = (.ok halted, after)) :
    ∃ instruction operation, engine.Decodes instruction operation.opcode operation ∧
      instruction.opcode = operation.opcode.mnemonic ∧
      after.machine.cycles = engine.machine.cycles + 1 ∧
      after.config = engine.config ∧ after.program = engine.program ∧
      Machine.Changes operation engine.machine engine.channel after.machine after.channel ∧
      Moves operation engine after := by
  have hrule := stepRule_of_step hstep
  obtain ⟨hcycles, _⟩ := hrule.cycles_of_ok hrunning
  have hconfig := hrule.config
  have hprogram := hrule.program
  cases hrule with
  | idle hhalted => cases hrunning.symm.trans hhalted
  | performed hperforms _ =>
    obtain ⟨hopcode, _, rfl, _⟩ := Instruction.decode_eq_ok_iff_placed.mp hperforms.decoded
    exact ⟨_, _, hperforms.toDecodes, hopcode, hcycles, hconfig, hprogram, hperforms.changes,
      hperforms.moves⟩

/-- Of a negative word the low byte is stored. -/
theorem step_changes_store : ∃ byte, ((new { memorySize := 6 }).serveAll
      [.load "f" "LOAD r0, -2\nSTORE r0, @5\n", .step, .step]).machine.memory[5]? = some byte ∧
    (byte.toNat : Int) = 254 := by
  have hdecodes : ((new { memorySize := 6 }).serveAll
      [.load "f" "LOAD r0, -2\nSTORE r0, @5\n", .step]).Decodes
        ⟨"STORE", ["r0", "@5"], 2, "STORE r0, @5"⟩ .store (.store 0 5) := ⟨rfl, rfl, rfl⟩
  have hword : ((new { memorySize := 6 }).serveAll
      [.load "f" "LOAD r0, -2\nSTORE r0, @5\n", .step]).machine.readRegister? 0 = some (-2) := rfl
  obtain ⟨_, operation, hfound, _, _, _, _, hchanges, _⟩ := step_changes hdecodes.running rfl
  obtain rfl := hdecodes.operation_eq hfound
  obtain ⟨value, byte, hvalue, hbyte, hcode⟩ := hchanges.stored 0 5 rfl
  cases hword.symm.trans hvalue
  exact ⟨byte, hbyte, hcode⟩

end Engine

end RegisterMachine
