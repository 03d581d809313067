import RegisterMachine.Text.Basic

/-!
Programs. A program is a list of instructions, still in the words of the source, with a table of
labels. A label points at the instruction that follows it, or just past the last one. A location in
the source names a file, a line and a column, the last two counted from one.
-/

namespace RegisterMachine

structure Location where
  file : String
  line : Nat
  column : Nat
  deriving DecidableEq

namespace Location

/-- The form `file:line:column`. -/
def text (location : Location) : String :=
  location.file ++ ":" ++ toString location.line ++ ":" ++ toString location.column

/-- Where a token first occurs in a line. A token that is absent, empty or not found is placed at
the first character that is not blank, and in a blank line at the first column. -/
def ofToken (file : String) (line : Nat) (raw : String) (token : Option String) : Location :=
  let found := (token.filter (!·.isEmpty)).bind (Text.indexOf? ·.toList raw.toList)
  let start := (found.or (raw.toList.findIdx? (!Text.isBlank ·))).getD 0
  ⟨file, line, start + 1⟩

end Location

structure Instruction where
  /-- The mnemonic, in upper case. -/
  opcode : String
  operands : List String
  /-- The line, counted from one. -/
  line : Nat
  /-- The whole line, with its comment. -/
  raw : String
  deriving DecidableEq

namespace Instruction

/-- The form `OP a, b`. -/
def text (instruction : Instruction) : String :=
  if instruction.operands.isEmpty then instruction.opcode
  else instruction.opcode ++ " " ++ ", ".intercalate instruction.operands

/-- Where a token of the instruction, or the instruction itself, stands. -/
def locate (instruction : Instruction) (file : String) (token : Option String) : Location :=
  Location.ofToken file instruction.line instruction.raw token

end Instruction

structure Label where
  name : String
  /-- The number of instructions in front of it. -/
  target : Nat
  line : Nat
  deriving DecidableEq

structure Program where
  name : String
  instructions : Array Instruction
  /-- The labels in the order of their definitions. -/
  labels : List Label
  deriving DecidableEq

namespace Program

def empty (name : String) : Program :=
  ⟨name, #[], []⟩

def size (program : Program) : Nat :=
  program.instructions.size

def isEmpty (program : Program) : Bool :=
  program.instructions.isEmpty

def findLabel? (program : Program) (name : String) : Option Label :=
  program.labels.find? (·.name == name)

def resolve? (program : Program) (name : String) : Option Nat :=
  (program.findLabel? name).map (·.target)

def sortNames (names : List String) : List String :=
  names.mergeSort fun a b => Text.precedes a.toList b.toList

/-- The names of a place, in order. -/
def labelsAt (program : Program) (place : Nat) : List String :=
  sortNames ((program.labels.filter (·.target == place)).map (·.name))

end Program

end RegisterMachine
