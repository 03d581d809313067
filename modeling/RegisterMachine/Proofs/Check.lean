import RegisterMachine.Program.Inspection
import RegisterMachine.Proofs.Run

/-!
The check and the execution of a program agree. What the check says of an instruction is what a
step on that instruction can fail with, apart from the failures that depend on how far the machine
has come. So a program without problems fails in no other way.
-/

namespace RegisterMachine

/-- Whether a failure shows in the instruction itself. -/
def Failure.isStatic : Failure → Bool
  | badOperand _ _ _ _ => true
  | unknownLabel _ _ _ => true
  | unknownOpcode _ _ => true
  | _ => false

/-- Whether a failure depends on how far the machine has come. -/
def Failure.isDynamic : Failure → Bool
  | noProgram => true
  | pcOutOfBounds _ _ _ => true
  | cycleLimit _ _ => true
  | _ => false

theorem Failure.isDynamic_eq_false {failure : Failure} (h : failure.isStatic = true) :
    failure.isDynamic = false := by
  cases failure with
  | badOperand | unknownLabel | unknownOpcode => rfl
  | _ => cases h

def Request.isLoad : Request → Bool
  | load _ _ => true
  | _ => false

variable {program : Program} {config : Config} {instruction : Instruction} {failure : Failure}

/-- Some running machine of the configuration, with control at this place, fails so. -/
def Program.Raises (program : Program) (config : Config) (place : Nat) (failure : Failure) : Prop :=
  ∃ engine : Engine, engine.config = config ∧ engine.program = program ∧
    engine.machine.halted = false ∧ engine.machine.registers.size = config.registerCount ∧
    engine.machine.memory.size = config.memorySize ∧ engine.machine.pc = place ∧
    engine.step.1 = .error failure

namespace Instruction

theorem isStatic_of_decode {file : String} (h : instruction.decode file config = .error failure) :
    failure.isStatic = true := by
  rcases decode_eq_error h with rfl | ⟨_, _, _, _, _, rfl⟩ <;> rfl

theorem locate_of_decode {file : String} (h : instruction.decode file config = .error failure) :
    ∃ token, failure.location? = some (instruction.locate file token) := by
  rcases decode_eq_error h with rfl | ⟨_, token, _, _, _, rfl⟩
  · exact ⟨some instruction.opcode, rfl⟩
  · exact ⟨token, rfl⟩

theorem problem?_eq_some_iff : instruction.problem? program config = some failure ↔
    instruction.decode program.name config = .error failure ∨
    ∃ opcode condition label,
      instruction.decode program.name config = .ok (opcode, .jump condition label) ∧
      program.resolve? label = none ∧
      failure = .unknownLabel opcode label (instruction.locate program.name (some label)) := by
  unfold problem?
  cases instruction.decode program.name config with
  | error found => simp
  | ok decoded =>
    obtain ⟨opcode, operation⟩ := decoded
    cases operation with
    | jump condition label =>
      cases hlabel : program.resolve? label with
      | none =>
        simp only [hlabel, Option.some.injEq, reduceCtorEq, false_or, Except.ok.injEq,
          Prod.mk.injEq, Operation.jump.injEq]
        constructor
        · rintro rfl
          exact ⟨opcode, condition, label, ⟨rfl, rfl, rfl⟩, hlabel, rfl⟩
        · rintro ⟨_, _, _, ⟨rfl, rfl, rfl⟩, _, rfl⟩
          rfl
      | some target =>
        simp only [hlabel, reduceCtorEq, false_or, false_iff]
        rintro ⟨_, _, _, hdecode, hmissing, _⟩
        cases hdecode
        cases hmissing.symm.trans hlabel
    | _ => simp

theorem isStatic_of_problem? (h : instruction.problem? program config = some failure) :
    failure.isStatic = true := by
  rcases problem?_eq_some_iff.mp h with hdecode | ⟨_, _, _, _, _, rfl⟩
  · exact isStatic_of_decode hdecode
  · rfl

theorem locate_of_problem? (h : instruction.problem? program config = some failure) :
    ∃ token, failure.location? = some (instruction.locate program.name token) := by
  rcases problem?_eq_some_iff.mp h with hdecode | ⟨_, _, label, _, _, rfl⟩
  · exact locate_of_decode hdecode
  · exact ⟨some label, rfl⟩

end Instruction

theorem Condition.exists_holds (condition : Condition) : ∃ flags, condition.holds flags = true := by
  cases condition with
  | always => exact ⟨{}, rfl⟩
  | zero => exact ⟨{ zero := true }, rfl⟩
  | notZero => exact ⟨{}, rfl⟩

namespace Engine

variable {engine after : Engine}

/-- A failed step shows how far the machine has come, leaves the machine, or shows the problem of
its instruction. -/
theorem StepRule.error_cases (h : engine.StepRule (.error failure) after) :
    failure.isDynamic = true ∨ failure = .strayAccess ∨
      ∃ instruction, engine.current? = some instruction ∧
        instruction.problem? engine.program engine.config = some failure := by
  cases h with
  | noProgram | pastEnd | capped => exact .inl rfl
  | stray => exact .inr (.inl rfl)
  | undecodable _ hcurrent hdecode =>
    exact .inr (.inr ⟨_, hcurrent, Instruction.problem?_eq_some_iff.mpr (.inl hdecode)⟩)
  | unresolved hdecodes _ hlabel =>
    exact .inr (.inr ⟨_, hdecodes.current, Instruction.problem?_eq_some_iff.mpr
      (.inr ⟨_, _, _, hdecodes.decoded, hlabel, rfl⟩)⟩)

/-- A machine that is new but for its place and its flags. -/
def placed (config : Config) (program : Program) (place : Nat) (flags : Flags) : Engine :=
  ⟨config, program, { Machine.new config with pc := place, flags := flags }, {}⟩

theorem mem_of_current? (h : engine.current? = some instruction) :
    instruction ∈ engine.program.instructions.toList :=
  (Array.mem_of_getElem? h).val

theorem mem_check_of_step (h : engine.Sound) (hstep : engine.step.1 = .error failure) :
    failure.isDynamic = true ∨ failure ∈ engine.program.check engine.config := by
  have hrule := stepRule_of_error hstep
  rcases hrule.error_cases with hdynamic | rfl | ⟨instruction, hcurrent, hproblem⟩
  · exact .inl hdynamic
  · cases hrule.isCrash_eq_false h
  · exact .inr (List.mem_filterMap.mpr ⟨instruction, mem_of_current? hcurrent, hproblem⟩)

@[simp] theorem stepped_program (engine : Engine) (count : Nat) :
    (engine.stepped count).program = engine.program :=
  stepped_induction (P := fun after => after.program = engine.program)
    (fun after h => after.stepRule.program.trans h) rfl count

theorem serve_program {request : Request} (h : request.isLoad = false) :
    (engine.serve request).2.program = engine.program := by
  cases request with
  | load => cases h
  | setInput | reset => rfl
  | step => exact engine.stepRule.program
  | run => simpa [serve] using engine.stepped_program engine.calls

@[simp] theorem serveAll_append (engine : Engine) (requests more : List Request) :
    engine.serveAll (requests ++ more) = (engine.serveAll requests).serveAll more :=
  List.foldl_append

theorem serveAll_program {requests : List Request}
    (h : ∀ request ∈ requests, request.isLoad = false) :
    (engine.serveAll requests).program = engine.program := by
  induction requests generalizing engine with
  | nil => rfl
  | cons request rest ih =>
    obtain ⟨hrequest, hrest⟩ := List.forall_mem_cons.mp h
    exact (ih hrest).trans (serve_program hrequest)

theorem program_after_load {name source : String} {requests : List Request}
    (hassemble : Program.assemble name source = .ok program)
    (h : ∀ request ∈ requests, request.isLoad = false) :
    (engine.serveAll (.load name source :: requests)).program = program := by
  have hload : (engine.serve (.load name source)).2.program = program := by
    simp only [serve, load, hassemble]
    rfl
  exact (serveAll_program h).trans hload

theorem mem_check_of_serve {request : Request} (h : engine.Sound) (hload : request.isLoad = false)
    (hserve : (engine.serve request).1 = .error failure) :
    failure.isDynamic = true ∨ failure ∈ engine.program.check engine.config := by
  cases request with
  | load => cases hload
  | setInput | reset => cases hserve
  | step => exact mem_check_of_step h (map_eq_error_iff.mp hserve)
  | run =>
    have hrun : engine.run.1 = .error failure := map_eq_error_iff.mp hserve
    obtain ⟨count, _, _, _, hstep⟩ := run_eq_error_cases (by rw [← hrun])
    rw [← stepped_program engine count, ← stepped_config engine count]
    exact mem_check_of_step (stepped_sound h count) hstep

end Engine

namespace Program

/-- The problems together with the places of their instructions. -/
def problems (program : Program) (config : Config) : List (Nat × Failure) :=
  program.instructions.toList.zipIdx.filterMap fun entry =>
    (entry.1.problem? program config).map (entry.2, ·)

@[simp] theorem map_snd_problems (program : Program) (config : Config) :
    (program.problems config).map Prod.snd = program.check config := by
  have hentry : (fun entry : Instruction × Nat =>
      ((entry.1.problem? program config).map (entry.2, ·)).map Prod.snd) =
      (fun instruction => instruction.problem? program config) ∘ Prod.fst := by
    funext entry
    rw [Option.map_map]
    exact Option.map_id_apply
  rw [problems, List.map_filterMap, hentry, ← List.filterMap_map, List.zipIdx_map_fst, check]

theorem mem_problems_iff {place : Nat} : (place, failure) ∈ program.problems config ↔
    ∃ instruction, program.instructions[place]? = some instruction ∧
      instruction.problem? program config = some failure := by
  simp only [problems, List.mem_filterMap, Option.map_eq_some_iff, Prod.mk.injEq, Prod.exists,
    List.mk_mem_zipIdx_iff_getElem?, Array.getElem?_toList]
  constructor
  · rintro ⟨instruction, _, hplace, _, hproblem, rfl, rfl⟩
    exact ⟨instruction, hplace, hproblem⟩
  · rintro ⟨instruction, hplace, hproblem⟩
    exact ⟨instruction, place, hplace, failure, hproblem, rfl, rfl⟩

/-- There is one problem at most for each instruction, and they come in the order of these. -/
theorem problems_pairwise (program : Program) (config : Config) :
    (program.problems config).Pairwise fun first second => first.1 < second.1 := by
  have hplaces : program.instructions.toList.zipIdx.Pairwise fun first second =>
      first.2 < second.2 := by
    rw [← List.pairwise_map, List.zipIdx_map_snd]
    exact List.pairwise_lt_range'
  refine hplaces.filterMap _ ?_
  rintro ⟨_, first⟩ ⟨_, second⟩ hlt _ hfirst _ hsecond
  obtain ⟨_, _, rfl⟩ := Option.map_eq_some_iff.mp hfirst
  obtain ⟨_, _, rfl⟩ := Option.map_eq_some_iff.mp hsecond
  exact hlt

theorem check_pairwise {line : Nat} (h : program.Ordered line) (config : Config) :
    (program.check config).Pairwise fun first second => ∃ here there,
      first.location? = some here ∧ second.location? = some there ∧ here.line < there.line := by
  refine h.increasing.filterMap _ ?_
  intro first second hlt _ hfirst _ hsecond
  obtain ⟨_, hhere⟩ := Instruction.locate_of_problem? hfirst
  obtain ⟨_, hthere⟩ := Instruction.locate_of_problem? hsecond
  exact ⟨_, _, hhere, hthere, hlt⟩

theorem raises_of_step {place : Nat} {flags : Flags} {after : Engine}
    (h : (Engine.placed config program place flags).step = (.error failure, after)) :
    program.Raises config place failure :=
  ⟨_, rfl, rfl, rfl, Array.size_replicate, Array.size_replicate, rfl, congrArg Prod.fst h⟩

/-- The problem of an instruction is what running machines can meet there. -/
theorem raises_iff {place : Nat} :
    failure.isStatic = true ∧ program.Raises config place failure ↔
      ∃ instruction, program.instructions[place]? = some instruction ∧
        instruction.problem? program config = some failure := by
  constructor
  · rintro ⟨hstatic, engine, rfl, rfl, _, _, _, rfl, hstep⟩
    rcases (Engine.stepRule_of_error hstep).error_cases with hdynamic | rfl | hproblem
    · rw [Failure.isDynamic_eq_false hstatic] at hdynamic
      cases hdynamic
    · cases hstatic
    · exact hproblem
  · rintro ⟨instruction, hplace, hproblem⟩
    refine ⟨Instruction.isStatic_of_problem? hproblem, ?_⟩
    rcases Instruction.problem?_eq_some_iff.mp hproblem with
      hdecode | ⟨opcode, condition, label, hdecode, hlabel, rfl⟩
    · have hrule : (Engine.placed config program place {}).StepRule _ _ :=
        .undecodable rfl hplace hdecode
      exact raises_of_step hrule.step_eq
    · obtain ⟨flags, htaken⟩ := condition.exists_holds
      have hdecodes : (Engine.placed config program place flags).Decodes instruction opcode
          (.jump condition label) := ⟨rfl, hplace, hdecode⟩
      exact raises_of_step (Engine.StepRule.unresolved hdecodes htaken hlabel).step_eq

/-- The check finds what steps can meet in the instructions: one problem at most for each, in the
order of the source, with the failure that a step there can have. Whatever else a history after the
load fails with depends on how far the machine has come. -/
theorem check_agrees_with_execution {name source : String}
    (h : assemble name source = .ok program) (config : Config) :
    (∃ problems : List (Nat × Failure), problems.map Prod.snd = program.check config ∧
      (problems.Pairwise fun first second => first.1 < second.1) ∧
      ∀ place failure, (place, failure) ∈ problems ↔
        failure.isStatic = true ∧ program.Raises config place failure) ∧
    ((program.check config).Pairwise fun first second => ∃ here there,
      first.location? = some here ∧ second.location? = some there ∧ here.line < there.line) ∧
    ∀ start earlier later request failure, Engine.new? config = .ok start →
      (∀ other ∈ request :: later, Request.isLoad other = false) →
      ((start.serveAll (earlier ++ .load name source :: later)).serve request).1 =
        .error failure →
      (failure.isDynamic = true ∨ failure ∈ program.check config) ∧
      (program.check config = [] → failure.isDynamic = true) := by
  refine ⟨⟨program.problems config, program.map_snd_problems config,
    program.problems_pairwise config, ?_⟩, check_pairwise (ordered_of_assemble h) config, ?_⟩
  · intro place failure
    rw [mem_problems_iff, raises_iff]
  · intro start earlier later request failure hstart hloads hserve
    obtain ⟨hrequest, hlater⟩ := List.forall_mem_cons.mp hloads
    have hreachable : Engine.Reachable config _ :=
      ⟨start, earlier ++ .load name source :: later, hstart, rfl⟩
    have hfailure := Engine.mem_check_of_serve hreachable.sound hrequest hserve
    rw [hreachable.config_eq, Engine.serveAll_append, Engine.program_after_load h hlater]
      at hfailure
    refine ⟨hfailure, fun hcheck => ?_⟩
    rw [hcheck] at hfailure
    exact hfailure.resolve_right List.not_mem_nil

/-- The first of two problems is what a run ends with. -/
theorem check_lists_missing_label :
    ∃ program failure, assemble "away" "LOAD r0, 1\nJNZ away\nFLY r0\n" = .ok program ∧
      (((Engine.new {}).serveAll [.load "away" "LOAD r0, 1\nJNZ away\nFLY r0\n"]).serve .run).1 =
        .error failure ∧
      failure ∈ program.check {} ∧ (program.check {}).length = 2 := by
  have hassemble : assemble "away" "LOAD r0, 1\nJNZ away\nFLY r0\n" = .ok _ := rfl
  refine ⟨_, _, hassemble, rfl, ?_, rfl⟩
  have hagrees := (check_agrees_with_execution hassemble {}).2.2 (Engine.new {}) [] [] .run _ rfl
    (by decide) rfl
  exact hagrees.1.resolve_left nofun

end Program

end RegisterMachine
