import RegisterMachine.Machine.Execution

/-!
The engine. An engine is a machine with its configuration, its program and its channel. It
executes one instruction at a time; a run repeats that until the machine halts or a step fails. A
failure while executing halts the machine. How the counters of cycles and steps go on is an argument
of all this; in `step` and `run` they have no bound.
-/

namespace RegisterMachine

structure Engine where
  config : Config
  program : Program
  machine : Machine
  channel : Channel
  deriving DecidableEq

structure RunStatus where
  halted : Bool
  steps : Nat
  deriving DecidableEq

namespace Engine

def new (config : Config) : Engine :=
  ⟨config, Program.empty "", Machine.new config, {}⟩

def new? (config : Config) : Except Config.Fault Engine :=
  (config.validate).map fun _ => new config

/-- Puts the machine at its start, the input at its front, and forgets the output. -/
def reset (engine : Engine) (clearMemory : Bool) : Engine :=
  { engine with
    machine := engine.machine.reset clearMemory
    channel := engine.channel.rewind.clearOutput }

/-- Installs a program on a machine that is all zero. -/
def install (engine : Engine) (program : Program) : Engine :=
  { engine with program := program }.reset true

/-- Assembles a source and installs it. The engine stays as it is when the source does not
assemble. -/
def load (engine : Engine) (name source : String) : Except Failure Unit × Engine :=
  match Program.assemble name source with
  | .ok program => (.ok (), engine.install program)
  | .error duplicate => (.error (.duplicateLabel duplicate), engine)

def setInput (engine : Engine) (text : String) : Engine :=
  { engine with channel := engine.channel.setInput text }

def outputText (engine : Engine) : String :=
  engine.channel.outputText

/-- The instruction that the next step executes. -/
def current? (engine : Engine) : Option Instruction :=
  engine.program.instructions[engine.machine.pc]?

def halt (engine : Engine) : Engine :=
  { engine with machine := { engine.machine with halted := true } }

def follow (engine : Engine) : Flow → Engine
  | .next => { engine with machine := { engine.machine with pc := engine.machine.pc + 1 } }
  | .jump target => { engine with machine := { engine.machine with pc := target } }
  | .halt => engine.halt

/-- The engine with the effect of an operation, whose cycle is counted by `next`. -/
def spentWith (next : Nat → Nat) (engine : Engine) (machine : Machine) (channel : Channel) :
    Engine :=
  { engine with
    machine := { machine with cycles := next machine.cycles }
    channel := channel }

/-- Applies a decoded operation, counts the cycle and moves control on. When the cap is exceeded the
effect remains but control does not move. -/
def performWith (next : Nat → Nat) (engine : Engine) (instruction : Instruction) (opcode : Opcode)
    (operation : Operation) : Except Failure Unit × Engine :=
  match operation.flow opcode instruction engine.program engine.machine.flags with
  | .error failure => (.error failure, engine)
  | .ok flow =>
    match engine.machine.effect? engine.channel operation with
    | none => (.error .strayAccess, engine)
    | some (machine, channel) =>
      if engine.config.maxCycles < next machine.cycles then
        let location := instruction.locate engine.program.name none
        (.error (.cycleLimit engine.config.maxCycles location),
          engine.spentWith next machine channel)
      else (.ok (), (engine.spentWith next machine channel).follow flow)

/-- Fetches, decodes and performs the instruction at the program counter. -/
def advanceWith (next : Nat → Nat) (engine : Engine) : Except Failure Unit × Engine :=
  match engine.current? with
  | none =>
    let last := engine.program.instructions.back?.map (·.locate engine.program.name none)
    (.error (.pcOutOfBounds engine.machine.pc engine.program.size last), engine)
  | some instruction =>
    match instruction.decode engine.program.name engine.config with
    | .error failure => (.error failure, engine)
    | .ok (opcode, operation) => engine.performWith next instruction opcode operation

/-- Executes one instruction and tells whether the machine has halted. A halted machine is left
alone, and so is one without a program. -/
def stepWith (next : Nat → Nat) (engine : Engine) : Except Failure Bool × Engine :=
  if engine.machine.halted then (.ok true, engine)
  else if engine.program.isEmpty then (.error .noProgram, engine)
  else
    match engine.advanceWith next with
    | (.error failure, engine) => (.error failure, engine.halt)
    | (.ok (), engine) => (.ok engine.machine.halted, engine)

/-- Steps until the machine halts, a step fails or more steps than the cap are counted; `steps` have
been made before. In any case it ends after so many rounds. -/
def runFromWith (next : Nat → Nat) (engine : Engine) (steps : Nat) :
    Nat → Except Failure RunStatus × Engine
  | 0 => (.ok ⟨engine.machine.halted, steps⟩, engine)
  | rounds + 1 =>
    if engine.machine.halted then (.ok ⟨true, steps⟩, engine)
    else
      match engine.stepWith next with
      | (.error failure, engine) => (.error failure, engine)
      | (.ok _, engine) =>
        if engine.config.maxCycles < next steps then
          (.ok ⟨engine.machine.halted, next steps⟩, engine)
        else engine.runFromWith next (next steps) rounds

def perform (engine : Engine) (instruction : Instruction) (opcode : Opcode)
    (operation : Operation) : Except Failure Unit × Engine :=
  engine.performWith (· + 1) instruction opcode operation

def step (engine : Engine) : Except Failure Bool × Engine :=
  engine.stepWith (· + 1)

def runFrom (engine : Engine) (steps rounds : Nat) : Except Failure RunStatus × Engine :=
  engine.runFromWith (· + 1) steps rounds

/-- Steps until the machine halts or fails. One round more than the cap allows is enough for
that. -/
def run (engine : Engine) : Except Failure RunStatus × Engine :=
  engine.runFrom 0 (engine.config.maxCycles + 1)

end Engine

/-- Runs an anonymous source on a default machine and gives what it writes. -/
def runSource (source input : String) : Except Failure String :=
  match (Engine.new {}).load Program.anonymous source with
  | (.error failure, _) => .error failure
  | (.ok (), engine) =>
    match (engine.setInput input).run with
    | (.error failure, _) => .error failure
    | (.ok _, engine) => .ok engine.outputText

end RegisterMachine
