import RegisterMachine.Failure
import RegisterMachine.Operand.Basic

/-!
Operations. An operation is an instruction whose operands have their meaning. Decoding looks up
the opcode, then counts the operands, then resolves them from left to right; the first obstacle is
the failure. The target of a jump stays a name until the jump is taken.
-/

namespace RegisterMachine

inductive ValueSource where
  | register (index : Nat)
  | memory (address : Nat)
  | immediate (value : Int)
  deriving DecidableEq

inductive Comparand where
  | register (index : Nat)
  | immediate (value : Int)
  deriving DecidableEq

inductive Condition where
  | always
  | zero
  | notZero
  deriving DecidableEq

/-- An instruction ready for execution. -/
inductive Operation where
  | load (dest : Nat) (src : ValueSource)
  | store (src address : Nat)
  | add (dest rhs : Nat)
  | sub (dest rhs : Nat)
  | inc (target : Nat)
  | dec (target : Nat)
  | cmp (left : Nat) (right : Comparand)
  | jump (condition : Condition) (label : String)
  | read (dest : Nat)
  | write (src : Nat)
  | halt
  deriving DecidableEq

namespace Operand

def register? : Operand → Option Nat
  | register index => some index
  | _ => none

def address? : Operand → Option Nat
  | memory address => some address
  | _ => none

def label? : Operand → Option String
  | label name => some name
  | _ => none

def valueSource? : Operand → Option ValueSource
  | register index => some (.register index)
  | memory address => some (.memory address)
  | immediate value => some (.immediate value)
  | label _ => none

def comparand? : Operand → Option Comparand
  | register index => some (.register index)
  | immediate value => some (.immediate value)
  | _ => none

/-- What an operand is in its role, or that it is not of the kinds expected at its position. -/
def inRole {α : Type} (role : Operand → Option α) (position : Nat) (expected : Kinds)
    (operand : Operand) : Except (Option Nat × Fault) α :=
  match role operand with
  | some value => .ok value
  | none => .error (some position, .notAllowed operand.kind expected)

def asRegister (position : Nat) (operand : Operand) : Except (Option Nat × Fault) Nat :=
  operand.inRole register? position [.register]

end Operand

namespace Operation

/-- The jump to the only operand. -/
def jumpTo (condition : Condition) (target : Operand) :
    Except (Option Nat × Operand.Fault) Operation := do
  let label ← target.inRole Operand.label? 0 [.label]
  pure (.jump condition label)

/-- The operation of an opcode with these operands. A fault comes with the position of the operand,
unless their number is wrong. Where the kinds of the second operand differ from those of the first,
it is looked at first. -/
def ofOperands : Opcode → List Operand → Except (Option Nat × Operand.Fault) Operation
  | .load, [dest, src] => do
    let src ← src.inRole Operand.valueSource? 1 [.register, .memory, .immediate]
    let dest ← dest.asRegister 0
    pure (.load dest src)
  | .store, [src, dest] => do
    let address ← dest.inRole Operand.address? 1 [.memory]
    let src ← src.asRegister 0
    pure (.store src address)
  | .add, [dest, rhs] => do
    let dest ← dest.asRegister 0
    let rhs ← rhs.asRegister 1
    pure (.add dest rhs)
  | .sub, [dest, rhs] => do
    let dest ← dest.asRegister 0
    let rhs ← rhs.asRegister 1
    pure (.sub dest rhs)
  | .inc, [target] => (target.asRegister 0).map .inc
  | .dec, [target] => (target.asRegister 0).map .dec
  | .cmp, [left, right] => do
    let right ← right.inRole Operand.comparand? 1 [.register, .immediate]
    let left ← left.asRegister 0
    pure (.cmp left right)
  | .jmp, [target] => jumpTo .always target
  | .jz, [target] => jumpTo .zero target
  | .jnz, [target] => jumpTo .notZero target
  | .read, [dest] => (dest.asRegister 0).map .read
  | .write, [src] => (src.asRegister 0).map .write
  | .halt, [] => .ok .halt
  | opcode, operands => .error (none, .arity opcode.positions.length operands.length)

end Operation

/-- Resolves tokens at their positions; the failure is that of the first token without meaning. -/
def Operand.resolveAll (config : Config) :
    List (String × Operand.Kinds) → Except (String × Operand.Fault) (List Operand)
  | [] => .ok []
  | (token, allowed) :: rest =>
    match Operand.resolve token allowed config with
    | .error fault => .error (token, fault)
    | .ok operand =>
      match resolveAll config rest with
      | .error fault => .error fault
      | .ok operands => .ok (operand :: operands)

namespace Instruction

/-- A failure of an operand, or of their number. -/
def refuse (instruction : Instruction) (file : String) (opcode : Opcode) (token : Option String)
    (fault : Operand.Fault) : Failure :=
  .badOperand opcode token fault (instruction.locate file token)

/-- The operation of an instruction. Operands that pass their positions always make up an operation
of the opcode, so the last failure does not arise. -/
def decode (instruction : Instruction) (file : String) (config : Config) :
    Except Failure (Opcode × Operation) :=
  match Opcode.ofMnemonic? instruction.opcode with
  | none =>
    let location := instruction.locate file (some instruction.opcode)
    .error (.unknownOpcode instruction.opcode location)
  | some opcode =>
    let positions := opcode.positions
    if instruction.operands.length = positions.length then
      match Operand.resolveAll config (instruction.operands.zip positions) with
      | .error (token, fault) => .error (instruction.refuse file opcode (some token) fault)
      | .ok operands =>
        match Operation.ofOperands opcode operands with
        | .ok operation => .ok (opcode, operation)
        | .error (position, fault) =>
          let token := position.bind fun index => instruction.operands[index]?
          .error (instruction.refuse file opcode token fault)
    else
      let fault := .arity positions.length instruction.operands.length
      .error (instruction.refuse file opcode none fault)

end Instruction

end RegisterMachine
