import RegisterMachine.Machine.Engine
import RegisterMachine.Text.Quoted

/-!
Journals. What an engine notes down while it works. A journal is a function of the engine before
an act, so the acts themselves know nothing of it.
-/

namespace RegisterMachine

namespace Journal

inductive Level where
  | error | warn | info | debug | trace
  deriving DecidableEq

namespace Level

def text : Level → String
  | error => "ERROR"
  | warn => "WARN"
  | info => "INFO"
  | debug => "DEBUG"
  | trace => "TRACE"

/-- Levels that matter less have higher ranks. -/
def rank : Level → Nat
  | error => 1
  | warn => 2
  | info => 3
  | debug => 4
  | trace => 5

/-- The level of a word in lower case. -/
def ofText? : String → Option Level
  | "error" => some error
  | "warn" => some warn
  | "info" => some info
  | "debug" => some debug
  | "trace" => some trace
  | _ => none

end Level

structure Entry where
  level : Level
  message : String
  deriving DecidableEq

/-- The entries that matter at least as much as the level. -/
def upTo (level : Level) (entries : List Entry) : List Entry :=
  entries.filter fun entry => entry.level.rank ≤ level.rank

end Journal

/-- The constructor form of an operand. -/
def Operand.debugText : Operand → String
  | register index => "Register(" ++ toString index ++ ")"
  | memory address => "Memory(" ++ toString address ++ ")"
  | immediate value => "Immediate(" ++ toString value ++ ")"
  | label name => "Label(" ++ Text.quoted name ++ ")"

def ValueSource.debugText : ValueSource → String
  | register index => "Register(" ++ toString index ++ ")"
  | memory address => "Memory(" ++ toString address ++ ")"
  | immediate value => "Immediate(" ++ toString value ++ ")"

def Comparand.debugText : Comparand → String
  | register index => "Register(" ++ toString index ++ ")"
  | immediate value => "Immediate(" ++ toString value ++ ")"

def Condition.debugText : Condition → String
  | always => "Always"
  | zero => "Zero"
  | notZero => "NotZero"

def recordText (name : String) (fields : List (String × String)) : String :=
  name ++ " \x7b " ++ ", ".intercalate (fields.map fun (key, value) => key ++ ": " ++ value) ++
    " \x7d"

def Operation.debugText : Operation → String
  | load dest src => recordText "Load" [("dest", toString dest), ("src", src.debugText)]
  | store src address =>
    recordText "Store" [("src", toString src), ("address", toString address)]
  | add dest rhs => recordText "Add" [("dest", toString dest), ("rhs", toString rhs)]
  | sub dest rhs => recordText "Sub" [("dest", toString dest), ("rhs", toString rhs)]
  | inc target => recordText "Inc" [("target", toString target)]
  | dec target => recordText "Dec" [("target", toString target)]
  | cmp left right => recordText "Cmp" [("left", toString left), ("right", right.debugText)]
  | jump condition label =>
    recordText "Jump" [("condition", condition.debugText), ("label", Text.quoted label)]
  | read dest => recordText "Read" [("dest", toString dest)]
  | write src => recordText "Write" [("src", toString src)]
  | halt => "Halt"

/-- The name of a program with its numbers of instructions and labels. -/
def Program.sizeText (program : Program) : String :=
  "'" ++ program.name ++ "': " ++ toString program.size ++ " instructions, " ++
    toString program.labels.length ++ " labels"

namespace Journal

/-- One note for each token that resolves, up to the first that does not. -/
def resolving (config : Config) : List (String × Operand.Kinds) → List Entry
  | [] => []
  | (token, allowed) :: rest =>
    match Operand.resolve token allowed config with
    | .error _ => []
    | .ok operand =>
      ⟨.trace, "resolved operand '" ++ token ++ "' as " ++ operand.debugText⟩ ::
        resolving config rest

def decoding (instruction : Instruction) (config : Config) : List Entry :=
  match Opcode.ofMnemonic? instruction.opcode with
  | none => []
  | some opcode =>
    if instruction.operands.length = opcode.positions.length then
      resolving config (instruction.operands.zip opcode.positions)
    else []

def fetching (engine : Engine) : List Entry :=
  match engine.current? with
  | none => []
  | some instruction =>
    decoding instruction engine.config ++
      match instruction.decode engine.program.name engine.config with
      | .error _ => []
      | .ok (_, operation) =>
        [⟨.debug, "pc " ++ toString engine.machine.pc ++ ": line " ++ toString instruction.line ++
          ": " ++ operation.debugText⟩]

def step (engine : Engine) : List Entry :=
  if engine.machine.halted || engine.program.isEmpty then []
  else
    fetching engine ++
      match engine.step with
      | (.error failure, _) => [⟨.warn, "execution halted: " ++ failure.text⟩]
      | (.ok _, _) => []

def runFrom (engine : Engine) (steps : Nat) : Nat → List Entry
  | 0 => [finished engine steps]
  | fuel + 1 =>
    if engine.machine.halted then [finished engine steps]
    else
      step engine ++
        match engine.step with
        | (.error _, _) => []
        | (.ok _, engine) => runFrom engine (steps + 1) fuel
where
  finished (engine : Engine) (steps : Nat) : Entry :=
    ⟨.info, "run finished after " ++ toString steps ++ " steps (halted: " ++
      (if engine.machine.halted then "true" else "false") ++ ")"⟩

def run (engine : Engine) : List Entry :=
  runFrom engine 0 (engine.config.maxCycles + 1)

def reset (clearMemory : Bool) : List Entry :=
  [⟨.info, "machine reset (clear_memory: " ++ (if clearMemory then "true" else "false") ++ ")"⟩]

def assembling (name source : String) : List Entry :=
  match Program.assemble name source with
  | .error _ => []
  | .ok program => [⟨.debug, "assembled " ++ program.sizeText⟩]

def load (name source : String) : List Entry :=
  match Program.assemble name source with
  | .error _ => []
  | .ok program =>
    assembling name source ++ [⟨.info, "loaded " ++ program.sizeText⟩] ++ reset true

end Journal

end RegisterMachine
