import RegisterMachine.Proofs.Run

/-!
Larger machines. A machine with more registers and cells, all of them zero, does what the smaller
one does and leaves the additional ones alone. The cap decides only how long that goes on: a run
that halts does so under every cap that it does not reach, and every other cap cuts it short.
-/

namespace RegisterMachine

theorem Config.validate_withCap {config : Config} {cap : Nat} (h : config.validate = .ok ())
    (hcap : 1 ≤ cap) : ({ config with maxCycles := cap } : Config).validate = .ok () := by
  unfold validate at h ⊢
  repeat' split at h
  all_goals cases h
  simp only [*, ite_false]
  exact if_neg (Nat.ne_of_gt hcap)

/-- One configuration has the registers and the memory of another. The caps do not matter. -/
structure Config.Covers (larger config : Config) : Prop where
  registers : config.registerCount ≤ larger.registerCount
  memory : config.memorySize ≤ larger.memorySize

namespace Machine

variable {machine after : Machine} {channel received : Channel} {registers cells : Nat}

/-- The machine with more registers and more cells, all zero. -/
def padded (machine : Machine) (registers cells : Nat) : Machine :=
  { machine with
    registers := machine.registers ++ Array.replicate registers 0
    memory := machine.memory ++ Array.replicate cells 0 }

theorem readRegister?_padded {index : Nat} {value : Int32}
    (h : machine.readRegister? index = some value) :
    (machine.padded registers cells).readRegister? index = some value := by
  obtain ⟨hindex, _⟩ := Array.getElem?_eq_some_iff.mp h
  exact (Array.getElem?_append_left hindex).trans h

theorem readMemory?_padded {address : Nat} {value : Int32}
    (h : machine.readMemory? address = some value) :
    (machine.padded registers cells).readMemory? address = some value := by
  obtain ⟨byte, hbyte, rfl⟩ := Option.map_eq_some_iff.mp h
  obtain ⟨haddress, _⟩ := Array.getElem?_eq_some_iff.mp hbyte
  exact Option.map_eq_some_iff.mpr ⟨byte, (Array.getElem?_append_left haddress).trans hbyte, rfl⟩

theorem value?_padded {source : ValueSource} {value : Int32}
    (h : machine.value? source = some value) :
    (machine.padded registers cells).value? source = some value := by
  cases source with
  | register index => exact readRegister?_padded h
  | memory address => exact readMemory?_padded h
  | immediate => exact h

theorem comparand?_padded {right : Comparand} {value : Int}
    (h : machine.comparand? right = some value) :
    (machine.padded registers cells).comparand? right = some value := by
  cases right with
  | register index =>
    obtain ⟨word, hword, rfl⟩ := Option.map_eq_some_iff.mp h
    exact Option.map_eq_some_iff.mpr ⟨word, readRegister?_padded hword, rfl⟩
  | immediate => exact h

theorem writeRegister?_padded {index : Nat} {value : Int32}
    (h : machine.writeRegister? index value = some after) :
    (machine.padded registers cells).writeRegister? index value =
      some (after.padded registers cells) := by
  obtain ⟨hindex, rfl⟩ := writeRegister?_eq_some_iff.mp h
  refine writeRegister?_eq_some_iff.mpr ⟨?_, ?_⟩
  · simp only [padded, Array.size_append]
    omega
  · simp only [setRegister, padded, Array.setIfInBounds_append_left hindex]

theorem writeMemory?_padded {address : Nat} {value : Int32}
    (h : machine.writeMemory? address value = some after) :
    (machine.padded registers cells).writeMemory? address value =
      some (after.padded registers cells) := by
  obtain ⟨haddress, rfl⟩ := writeMemory?_eq_some_iff.mp h
  refine writeMemory?_eq_some_iff.mpr ⟨?_, ?_⟩
  · simp only [padded, Array.size_append]
    omega
  · simp only [setMemory, padded, Array.setIfInBounds_append_left haddress]

theorem combine?_padded {op : Int32 → Int32 → Int32} {dest rhs : Nat}
    (h : machine.combine? op dest rhs = some after) :
    (machine.padded registers cells).combine? op dest rhs =
      some (after.padded registers cells) := by
  simp only [combine?, Option.bind_eq_bind, Option.bind_eq_some_iff] at h ⊢
  obtain ⟨left, hleft, right, hright, hwrite⟩ := h
  exact ⟨left, readRegister?_padded hleft, right, readRegister?_padded hright,
    writeRegister?_padded hwrite⟩

theorem update?_padded {op : Int32 → Int32} {target : Nat}
    (h : machine.update? op target = some after) :
    (machine.padded registers cells).update? op target = some (after.padded registers cells) := by
  simp only [update?, Option.bind_eq_bind, Option.bind_eq_some_iff] at h ⊢
  obtain ⟨value, hvalue, hwrite⟩ := h
  exact ⟨value, readRegister?_padded hvalue, writeRegister?_padded hwrite⟩

theorem effect?_padded {operation : Operation}
    (h : machine.effect? channel operation = some (after, received)) :
    (machine.padded registers cells).effect? channel operation =
      some (after.padded registers cells, received) := by
  cases operation with
  | load dest src =>
    simp only [effect?, Option.bind_eq_bind, Option.bind_eq_some_iff, Option.pure_def,
      Option.some.injEq, Prod.mk.injEq] at h ⊢
    obtain ⟨value, hvalue, _, hwrite, rfl, rfl⟩ := h
    exact ⟨value, value?_padded hvalue, _, writeRegister?_padded hwrite, rfl, rfl⟩
  | store src address =>
    simp only [effect?, Option.bind_eq_bind, Option.bind_eq_some_iff, Option.pure_def,
      Option.some.injEq, Prod.mk.injEq] at h ⊢
    obtain ⟨value, hvalue, _, hwrite, rfl, rfl⟩ := h
    exact ⟨value, readRegister?_padded hvalue, _, writeMemory?_padded hwrite, rfl, rfl⟩
  | add dest rhs | sub dest rhs =>
    simp only [effect?, Option.map_eq_some_iff, Prod.mk.injEq] at h ⊢
    obtain ⟨_, hcombine, rfl, rfl⟩ := h
    exact ⟨_, combine?_padded hcombine, rfl, rfl⟩
  | inc target | dec target =>
    simp only [effect?, Option.map_eq_some_iff, Prod.mk.injEq] at h ⊢
    obtain ⟨_, hupdate, rfl, rfl⟩ := h
    exact ⟨_, update?_padded hupdate, rfl, rfl⟩
  | cmp left right =>
    simp only [effect?, Option.bind_eq_bind, Option.bind_eq_some_iff, Option.pure_def,
      Option.some.injEq, Prod.mk.injEq] at h ⊢
    obtain ⟨rhs, hrhs, lhs, hlhs, rfl, rfl⟩ := h
    exact ⟨rhs, comparand?_padded hrhs, lhs, readRegister?_padded hlhs, rfl, rfl⟩
  | read dest =>
    simp only [effect?, Option.bind_eq_bind, Option.bind_eq_some_iff, Option.pure_def,
      Option.some.injEq, Prod.mk.injEq] at h ⊢
    obtain ⟨_, hwrite, rfl, rfl⟩ := h
    exact ⟨_, writeRegister?_padded hwrite, rfl, rfl⟩
  | write src =>
    simp only [effect?, Option.bind_eq_bind, Option.bind_eq_some_iff, Option.pure_def,
      Option.some.injEq, Prod.mk.injEq] at h ⊢
    obtain ⟨value, hvalue, rfl, rfl⟩ := h
    exact ⟨value, readRegister?_padded hvalue, rfl, rfl⟩
  | jump _ _ | halt =>
    simp only [effect?, Option.some.injEq, Prod.mk.injEq] at h ⊢
    obtain ⟨rfl, rfl⟩ := h
    exact ⟨rfl, rfl⟩

theorem reset_padded (machine : Machine) (registers cells : Nat) (clearMemory : Bool) :
    (machine.padded registers cells).reset clearMemory =
      (machine.reset clearMemory).padded registers cells := by
  cases clearMemory <;> simp [reset, padded, Array.replicate_append_replicate]

end Machine

namespace Engine

variable {engine after : Engine} {config larger : Config} {status : RunStatus} {count : Nat}

/-- The engine with its machine enlarged to the size of a configuration, and with the cap of that
configuration. -/
def enlarged (engine : Engine) (larger : Config) : Engine :=
  { engine with
    config := larger
    machine := engine.machine.padded (larger.registerCount - engine.config.registerCount)
      (larger.memorySize - engine.config.memorySize) }

def execute (engine : Engine) (name source input : String) : Except Failure RunStatus × Engine :=
  match engine.load name source with
  | (.error failure, after) => (.error failure, after)
  | (.ok (), after) => (after.setInput input).run

theorem follow_enlarged (engine : Engine) (larger : Config) (flow : Flow) :
    (engine.enlarged larger).follow flow = (engine.follow flow).enlarged larger := by
  cases flow <;> rfl

theorem install_enlarged (engine : Engine) (larger : Config) (program : Program) :
    (engine.enlarged larger).install program = (engine.install program).enlarged larger := by
  simp only [install, reset, enlarged, Machine.reset_padded]

theorem new_enlarged (h : larger.Covers config) : (new config).enlarged larger = new larger := by
  simp only [enlarged, new, Machine.new, Machine.padded, Array.replicate_append_replicate,
    Nat.add_sub_cancel' h.registers, Nat.add_sub_cancel' h.memory]

section
variable {instruction : Instruction} {opcode : Opcode} {operation : Operation} {flow : Flow}
variable {machine : Machine} {channel : Channel}

theorem Performs.enlarged
    (hperforms : engine.Performs instruction opcode operation flow machine channel)
    (h : larger.Covers engine.config) :
    (engine.enlarged larger).Performs instruction opcode operation flow
      (machine.padded (larger.registerCount - engine.config.registerCount)
        (larger.memorySize - engine.config.memorySize)) channel where
  running := hperforms.running
  current := hperforms.current
  decoded := Instruction.decode_enlarge hperforms.decoded h.registers h.memory
  flows := hperforms.flows
  effect := Machine.effect?_padded hperforms.effect

theorem Performs.step_enlarged
    (hperforms : engine.Performs instruction opcode operation flow machine channel)
    (h : larger.Covers engine.config) :
    (engine.enlarged larger).step =
      if larger.maxCycles < machine.cycles + 1 then
        (.error (.cycleLimit larger.maxCycles (instruction.locate engine.program.name none)),
          ((engine.spent machine channel).enlarged larger).halt)
      else (.ok ((engine.spent machine channel).follow flow).machine.halted,
        ((engine.spent machine channel).follow flow).enlarged larger) := by
  rw [(hperforms.enlarged h).step_eq, ← follow_enlarged]
  cases flow <;> rfl

end

/-- A step that succeeds does so on a larger machine whose cap allows for it. -/
theorem step_enlarged {halted : Bool} (hstep : engine.step = (.ok halted, after))
    (hrunning : engine.machine.halted = false) (h : larger.Covers engine.config)
    (hcap : engine.machine.cycles < larger.maxCycles) :
    (engine.enlarged larger).step = (.ok halted, after.enlarged larger) := by
  cases stepRule_of_step hstep with
  | idle hhalted => cases hrunning.symm.trans hhalted
  | performed hperforms _ =>
    rw [hperforms.step_enlarged h, hperforms.change.cycles, if_neg (Nat.not_lt.mpr hcap)]

/-- A step that succeeds fails on a larger machine that has spent all its cycles. -/
theorem step_enlarged_of_spent {halted : Bool} (hstep : engine.step = (.ok halted, after))
    (hrunning : engine.machine.halted = false) (h : larger.Covers engine.config)
    (hcap : engine.machine.cycles = larger.maxCycles) :
    ∃ location final, (engine.enlarged larger).step =
        (.error (.cycleLimit larger.maxCycles location), final) ∧
      final.machine.cycles = larger.maxCycles + 1 ∧ final.machine.halted = true := by
  cases stepRule_of_step hstep with
  | idle hhalted => cases hrunning.symm.trans hhalted
  | @performed _ _ _ flow machine channel hperforms _ =>
    have hcycles : machine.cycles = larger.maxCycles := hperforms.change.cycles.trans hcap
    rw [hperforms.step_enlarged h, hcycles, if_pos (Nat.lt_succ_self _)]
    exact ⟨_, _, rfl, congrArg (· + 1) hcycles, rfl⟩

theorem Proceeds.enlarged (hproceeds : engine.Proceeds count) (h : larger.Covers engine.config)
    (hcap : engine.machine.cycles + count ≤ larger.maxCycles) :
    (engine.enlarged larger).Proceeds count ∧
      (engine.enlarged larger).stepped count = (engine.stepped count).enlarged larger := by
  induction count generalizing engine with
  | zero => exact ⟨proceeds_zero _, rfl⟩
  | succ count ih =>
    obtain ⟨⟨hrunning, halted, hok⟩, hrest⟩ := proceeds_succ_iff.mp hproceeds
    have hstep : engine.step = (.ok halted, engine.step.2) := by rw [← hok]
    have hcycles := ((stepRule_of_step hstep).cycles_of_ok hrunning).1
    have hlarger := step_enlarged hstep hrunning h (by omega)
    obtain ⟨hproceeds, hstepped⟩ :=
      ih hrest (by rw [engine.stepRule.config]; exact h) (by omega)
    rw [proceeds_succ_iff, stepped, hlarger]
    exact ⟨⟨⟨hrunning, halted, rfl⟩, hproceeds⟩, hstepped⟩

/-- A run that halts does so on a larger machine whose cap allows for its steps. -/
theorem run_enlarged (hrun : engine.run = (.ok status, after)) (h : larger.Covers engine.config)
    (hcap : engine.machine.cycles + status.steps ≤ larger.maxCycles) :
    (engine.enlarged larger).run = (.ok status, after.enlarged larger) := by
  obtain ⟨hproceeds, hhalted, rfl⟩ := run_eq_ok_cases hrun
  obtain ⟨hlarger, hstepped⟩ := hproceeds.enlarged h hcap
  have hafter : engine.stepped engine.calls = after := by simp [hrun]
  rw [hafter] at hstepped
  have hle : engine.calls ≤ larger.maxCycles + 1 := by
    simp only at hcap
    omega
  rw [hlarger.run_eq_ok (by rw [hstepped]; exact hhalted) hle, hstepped]

/-- A cap below the steps that a run needs is exceeded by one cycle, and halts the machine. -/
theorem run_enlarged_of_lt (hrun : engine.run = (.ok status, after))
    (h : larger.Covers engine.config) (hle : engine.machine.cycles ≤ larger.maxCycles)
    (hlt : larger.maxCycles < engine.machine.cycles + status.steps) :
    ∃ location final, (engine.enlarged larger).run =
        (.error (.cycleLimit larger.maxCycles location), final) ∧
      final.machine.cycles = larger.maxCycles + 1 ∧ final.machine.halted = true := by
  obtain ⟨hproceeds, hhalted, rfl⟩ := run_eq_ok_cases hrun
  obtain ⟨count, hcount⟩ := Nat.exists_eq_add_of_le hle
  have hcalls : count < engine.calls := by
    simp only at hlt
    omega
  -- The step with which the cap is reached is the last that succeeds on the larger machine.
  have hfirst := hproceeds.mono (Nat.le_of_lt hcalls)
  obtain ⟨hlarger, hstepped⟩ := hfirst.enlarged h (Nat.le_of_eq hcount.symm)
  obtain ⟨hrunning, halted, hok⟩ := hproceeds count hcalls
  obtain ⟨location, final, hstep, hcycles, hfinal⟩ :=
    step_enlarged_of_spent (by rw [← hok]) hrunning (by simpa using h)
      (hfirst.cycles_eq.trans hcount.symm)
  rw [← hstepped] at hstep
  have hfailed := hlarger.run_eq_error (by rw [hstepped]; exact hrunning) (by rw [hstep])
    (show count < larger.maxCycles + 1 by omega)
  rw [stepped_succ, hstep] at hfailed
  exact ⟨location, final, hfailed, hcycles, hfinal⟩

/-- An execution that succeeds is a run from a start that does not depend on the machine's size. -/
theorem execute_eq_ok_cases {name source input : String}
    (h : engine.execute name source input = (.ok status, after)) :
    ∃ ready : Engine, ready.config = engine.config ∧ ready.machine.cycles = 0 ∧
      ready.run = (.ok status, after) ∧
      ∀ larger, (engine.enlarged larger).execute name source input =
        (ready.enlarged larger).run := by
  cases hassemble : Program.assemble name source with
  | error duplicate =>
    simp only [execute, load, hassemble] at h
    cases h
  | ok program =>
    simp only [execute, load, hassemble] at h
    refine ⟨(engine.install program).setInput input, rfl, rfl, h, ?_⟩
    intro larger
    simp only [execute, load, hassemble, install_enlarged]
    rfl

/-- The configuration stays as it is, and its cap holds. -/
theorem execute_eq_ok_bounds {name source input : String}
    (h : (new config).execute name source input = (.ok status, after)) :
    after.config = config ∧ status.steps ≤ config.maxCycles := by
  obtain ⟨ready, hconfig, _, hrun, _⟩ := execute_eq_ok_cases h
  obtain rfl : ready.config = config := hconfig
  obtain ⟨hproceeds, _, rfl⟩ := run_eq_ok_cases hrun
  refine ⟨?_, hproceeds.le_maxCycles⟩
  rw [← stepped_config ready ready.calls, stepped_calls, hrun]

theorem execute_of_covers {name source input : String} (h : larger.Covers config)
    (hexecute : (new config).execute name source input = (.ok status, after))
    (hcap : status.steps ≤ larger.maxCycles) :
    (new larger).execute name source input = (.ok status, after.enlarged larger) := by
  obtain ⟨ready, hconfig, hcycles, hrun, hlarger⟩ := execute_eq_ok_cases hexecute
  rw [← new_enlarged h, hlarger]
  exact run_enlarged hrun (by rw [hconfig]; exact h) (by omega)

theorem execute_of_covers_of_lt {name source input : String} (h : larger.Covers config)
    (hexecute : (new config).execute name source input = (.ok status, after))
    (hlt : larger.maxCycles < status.steps) :
    ∃ location final, (new larger).execute name source input =
        (.error (.cycleLimit larger.maxCycles location), final) ∧
      final.machine.cycles = larger.maxCycles + 1 ∧ final.machine.halted = true := by
  obtain ⟨ready, hconfig, hcycles, hrun, hlarger⟩ := execute_eq_ok_cases hexecute
  rw [← new_enlarged h, hlarger]
  exact run_enlarged_of_lt hrun (by rw [hconfig]; exact h) (by omega) (by omega)

/-- An execution that halts is the same on every larger machine, but for additional registers and
cells that stay zero. Each cap below the number of its steps is exceeded by one cycle instead, and
halts the machine. -/
theorem execution_kept_by_larger_and_cut_by_cap {small large final : Engine}
    {name source input : String} (hsmall : new? config = .ok small)
    (hlarge : new? larger = .ok large)
    (hregisters : config.registerCount ≤ larger.registerCount)
    (hmemory : config.memorySize ≤ larger.memorySize)
    (hcycles : config.maxCycles ≤ larger.maxCycles)
    (h : small.execute name source input = (.ok status, final)) :
    (∃ after, large.execute name source input = (.ok status, after) ∧
      after.channel.output = final.channel.output ∧
      after.channel.remaining = final.channel.remaining ∧
      after.machine.flags = final.machine.flags ∧ after.machine.pc = final.machine.pc ∧
      after.machine.cycles = final.machine.cycles ∧
      after.machine.registers = final.machine.registers ++
        Array.replicate (larger.registerCount - config.registerCount) 0 ∧
      after.machine.memory = final.machine.memory ++
        Array.replicate (larger.memorySize - config.memorySize) 0) ∧
    ∀ cap, 1 ≤ cap → cap < status.steps → ∃ capped location after,
      new? { config with maxCycles := cap } = .ok capped ∧
      capped.execute name source input = (.error (.cycleLimit cap location), after) ∧
      after.machine.cycles = cap + 1 ∧ after.machine.halted = true := by
  obtain ⟨hvalid, rfl⟩ := new?_eq_ok_iff.mp hsmall
  obtain ⟨_, rfl⟩ := new?_eq_ok_iff.mp hlarge
  obtain ⟨hconfig, hsteps⟩ := execute_eq_ok_bounds h
  constructor
  · have hlarger := execute_of_covers ⟨hregisters, hmemory⟩ h (Nat.le_trans hsteps hcycles)
    refine ⟨_, hlarger, rfl, rfl, rfl, rfl, rfl, ?_, ?_⟩
    · rw [← hconfig]
      rfl
    · rw [← hconfig]
      rfl
  · intro cap hpos hlt
    have hcovers : Config.Covers { config with maxCycles := cap } config :=
      ⟨Nat.le_refl _, Nat.le_refl _⟩
    obtain ⟨location, after, hexecute, hafter⟩ := execute_of_covers_of_lt hcovers h hlt
    have hcapped := new?_eq_ok_iff.mpr ⟨Config.validate_withCap hvalid hpos, rfl⟩
    exact ⟨_, location, after, hcapped, hexecute, hafter⟩

/-- Three steps fill a cap of three, and a cap of two is too low for them. -/
theorem echo_kept_by_larger_and_cut_by_cap :
    (∃ after, (new {}).execute "echo" "READ r0\nWRITE r0\nHALT\n" "é" = (.ok ⟨true, 3⟩, after) ∧
      after.machine.registers = #[233] ++ Array.replicate 3 0) ∧
    ∃ capped location after,
      new? { registerCount := 1, memorySize := 1, maxCycles := 2 } = .ok capped ∧
      capped.execute "echo" "READ r0\nWRITE r0\nHALT\n" "é" =
        (.error (.cycleLimit 2 location), after) ∧
      after.machine.cycles = 3 ∧ after.machine.halted = true := by
  have hsmall : new? { registerCount := 1, memorySize := 1, maxCycles := 3 } = .ok _ := rfl
  have hlarge : new? {} = .ok _ := rfl
  have hecho : (new { registerCount := 1, memorySize := 1, maxCycles := 3 }).execute "echo"
      "READ r0\nWRITE r0\nHALT\n" "é" = (.ok ⟨true, 3⟩, _) := rfl
  obtain ⟨⟨after, hexecute, _, _, _, _, _, hregisters, _⟩, hcaps⟩ :=
    execution_kept_by_larger_and_cut_by_cap hsmall hlarge (by decide) (by decide) (by decide) hecho
  exact ⟨⟨after, hexecute, hregisters⟩, hcaps 2 (by decide) (by decide)⟩

end Engine

end RegisterMachine
