import RegisterMachine.Operation

/-!
What can be told of a program without running it. To check it, every instruction is decoded and
every jump looked up, whether or not it would be reached or taken. A listing has one line for each
instruction, which gives its place, its source line and what it does. Labels stand on lines of their
own, and jumps show the place they lead to.
-/

namespace RegisterMachine

def Instruction.problem? (instruction : Instruction) (program : Program) (config : Config) :
    Option Failure :=
  match instruction.decode program.name config with
  | .error failure => some failure
  | .ok (opcode, .jump _ label) =>
    match program.resolve? label with
    | some _ => none
    | none =>
      some (.unknownLabel opcode label (instruction.locate program.name (some label)))
  | .ok _ => none

/-- All problems, in the order of the source. -/
def Program.check (program : Program) (config : Config) : List Failure :=
  program.instructions.toList.filterMap (·.problem? program config)

def registerName (index : Nat) : String :=
  "r" ++ toString index

/-- A place in four digits. -/
def placeText (place : Nat) : String :=
  Text.padStart 4 '0' (toString place)

def ValueSource.text : ValueSource → String
  | register index => registerName index
  | memory address => "@" ++ toString address
  | immediate value => toString value

def Comparand.text : Comparand → String
  | register index => registerName index
  | immediate value => toString value

def Condition.remark : Condition → String
  | always => ""
  | zero => " if Z"
  | notZero => " if !Z"

def Operation.text (operation : Operation) (program : Program) : String :=
  match operation with
  | .load dest src => " " ++ registerName dest ++ " <- " ++ src.text
  | .store src address => " @" ++ toString address ++ " <- " ++ registerName src ++ " & 0xFF"
  | .add dest rhs =>
    " " ++ registerName dest ++ " <- " ++ registerName dest ++ " + " ++ registerName rhs
  | .sub dest rhs =>
    " " ++ registerName dest ++ " <- " ++ registerName dest ++ " - " ++ registerName rhs
  | .inc target => " " ++ registerName target ++ " ++"
  | .dec target => " " ++ registerName target ++ " --"
  | .cmp left right => " " ++ registerName left ++ " , " ++ right.text
  | .jump condition label =>
    match program.resolve? label with
    | some target => " " ++ label ++ " -> " ++ placeText target ++ condition.remark
    | none => " " ++ label ++ " -> ????" ++ condition.remark ++ " (undefined label)"
  | .read dest => " " ++ registerName dest ++ " <- in"
  | .write src => " out <- " ++ registerName src
  | .halt => ""

namespace Program

/-- What an instruction does, or why it does nothing. -/
def instructionText (program : Program) (config : Config) (instruction : Instruction) : String :=
  match instruction.decode program.name config with
  | .ok (opcode, operation) => opcode.mnemonic ++ operation.text program
  | .error failure => "!! " ++ failure.message

def labelLines (program : Program) (place : Nat) : List String :=
  (program.labelsAt place).map (· ++ ":")

def instructionLine (program : Program) (config : Config) (place : Nat)
    (instruction : Instruction) : String :=
  placeText place ++ "  L" ++ Text.padEnd 4 ' ' (toString instruction.line) ++ " " ++
    program.instructionText config instruction

/-- The lines of the instructions from a place on, each after its labels, and the labels at the
end. -/
def bodyLines (program : Program) (config : Config) (place : Nat) :
    List Instruction → List String
  | [] => program.labelLines place
  | instruction :: rest =>
    program.labelLines place ++ program.instructionLine config place instruction ::
      program.bodyLines config (place + 1) rest

def headerLines (program : Program) : List String :=
  ["Program: " ++ program.name, "Instructions: " ++ toString program.size,
    "Labels: " ++ toString program.labels.length, ""]

def listing (program : Program) (config : Config) : String :=
  String.join ((program.headerLines ++ program.bodyLines config 0 program.instructions.toList).map
    (· ++ "\n"))

end Program

end RegisterMachine
