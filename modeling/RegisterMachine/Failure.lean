import RegisterMachine.Opcode
import RegisterMachine.Operand.Kind
import RegisterMachine.Program.Assembly

/-!
Failures. Everything that a load, a step or a run can end with besides success, and the wording of
each.
-/

namespace RegisterMachine

/-- Why a program could not be loaded or went no further. -/
inductive Failure where
  | duplicateLabel (duplicate : DuplicateLabel)
  /-- An operand, or the number of operands, does not suit the opcode. -/
  | badOperand (opcode : Opcode) (token : Option String) (fault : Operand.Fault)
      (location : Location)
  /-- A jump is taken to a label that the program does not have. -/
  | unknownLabel (opcode : Opcode) (label : String) (location : Location)
  | noProgram
  /-- The program counter has left the program; the location is that of the last instruction. -/
  | pcOutOfBounds (pc size : Nat) (location : Option Location)
  | unknownOpcode (mnemonic : String) (location : Location)
  | cycleLimit (limit : Nat) (location : Location)
  /-- An operation names a register or a cell that the machine does not have. Decoding yields no
  such operation. -/
  | strayAccess
  deriving DecidableEq

namespace Failure

/-- What is wrong with an execution, in general terms. -/
def executionText : Failure → String
  | noProgram => "No program loaded."
  | pcOutOfBounds pc size _ =>
    "Program counter out of bounds (" ++ toString pc ++ "; program has " ++ toString size ++
      " instructions)."
  | unknownOpcode _ _ => "Unknown opcode."
  | _ => "Access outside the machine."

def message : Failure → String
  | duplicateLabel duplicate =>
    "Duplicate label '" ++ duplicate.label ++ "' on line " ++ toString duplicate.location.line ++
      " (first defined on line " ++ toString duplicate.firstLine ++ ")."
  | badOperand opcode (some token) fault location =>
    opcode.mnemonic ++ ": " ++ fault.message ++ " '" ++ token ++ "' on line " ++
      toString location.line ++ "."
  | badOperand opcode none fault location =>
    opcode.mnemonic ++ ": " ++ fault.message ++ " on line " ++ toString location.line ++ "."
  | unknownLabel opcode label location =>
    opcode.mnemonic ++ ": unknown label '" ++ label ++ "' on line " ++ toString location.line ++
      "."
  | unknownOpcode mnemonic location =>
    "Unknown opcode '" ++ mnemonic ++ "' on line " ++ toString location.line ++ "."
  | cycleLimit limit _ => "Cycle limit of " ++ toString limit ++ " exceeded."
  | failure => failure.executionText

def location? : Failure → Option Location
  | duplicateLabel duplicate => some duplicate.location
  | badOperand _ _ _ location => some location
  | unknownLabel _ _ location => some location
  | noProgram => none
  | pcOutOfBounds _ _ location => location
  | unknownOpcode _ location => some location
  | cycleLimit _ location => some location
  | strayAccess => none

/-- The piece of source text that a failure is about. -/
def token? : Failure → Option String
  | duplicateLabel duplicate => some duplicate.label
  | badOperand _ token _ _ => token
  | unknownLabel _ label _ => some label
  | unknownOpcode mnemonic _ => some mnemonic
  | _ => none

/-- The wording with the place in parentheses. -/
def text (failure : Failure) : String :=
  match failure.location? with
  | some location => failure.message ++ " (at " ++ location.text ++ ")"
  | none => failure.message

end Failure

end RegisterMachine
