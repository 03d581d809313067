import RegisterMachine.Machine.Basic
import RegisterMachine.Machine.Channel
import RegisterMachine.Operation

/-!
The effect of one operation. Words wrap around on overflow. A comparison takes the difference of
two values held to 64 bits, so its flags give their order.
-/

namespace RegisterMachine

inductive Flow where
  | next
  | jump (target : Nat)
  | halt
  deriving DecidableEq

/-- The nearest value that fits in 64 bits with sign. -/
def saturate (value : Int) : Int :=
  if value < -0x8000000000000000 then -0x8000000000000000
  else if value < 0x8000000000000000 then value
  else 0x7FFFFFFFFFFFFFFF

def Condition.holds (flags : Flags) : Condition → Bool
  | always => true
  | zero => flags.zero
  | notZero => !flags.zero

namespace Machine

/-- The word that a source supplies; an immediate value keeps its low 32 bits. -/
def value? (machine : Machine) : ValueSource → Option Int32
  | .register index => machine.readRegister? index
  | .memory address => machine.readMemory? address
  | .immediate value => some (Int32.ofInt value)

def comparand? (machine : Machine) : Comparand → Option Int
  | .register index => (machine.readRegister? index).map Int32.toInt
  | .immediate value => some value

def combine? (machine : Machine) (op : Int32 → Int32 → Int32) (dest rhs : Nat) :
    Option Machine := do
  let left ← machine.readRegister? dest
  let right ← machine.readRegister? rhs
  machine.writeRegister? dest (op left right)

def update? (machine : Machine) (op : Int32 → Int32) (target : Nat) : Option Machine := do
  let value ← machine.readRegister? target
  machine.writeRegister? target (op value)

/-- The machine and channel after an operation that is no jump, if it stays inside the machine. -/
def effect? (machine : Machine) (channel : Channel) : Operation → Option (Machine × Channel)
  | .load dest src => do
    let value ← machine.value? src
    let machine ← machine.writeRegister? dest value
    pure (machine, channel)
  | .store src address => do
    let value ← machine.readRegister? src
    let machine ← machine.writeMemory? address value
    pure (machine, channel)
  | .add dest rhs => (machine.combine? (· + ·) dest rhs).map (·, channel)
  | .sub dest rhs => (machine.combine? (· - ·) dest rhs).map (·, channel)
  | .inc target => (machine.update? (· + 1) target).map (·, channel)
  | .dec target => (machine.update? (· - 1) target).map (·, channel)
  | .cmp left right => do
    let rhs ← machine.comparand? right
    let lhs ← machine.readRegister? left
    pure ({ machine with flags := Flags.ofInt (saturate (lhs.toInt - rhs)) }, channel)
  | .read dest => do
    let (value, channel) := channel.read
    let machine ← machine.writeRegister? dest value
    pure (machine, channel)
  | .write src => do
    let value ← machine.readRegister? src
    pure (machine, channel.write value)
  | .jump _ _ => some (machine, channel)
  | .halt => some (machine, channel)

end Machine

/-- Where an operation leads, given the flags before it. Only a taken jump can fail, when the
program lacks its label. -/
def Operation.flow (operation : Operation) (opcode : Opcode) (instruction : Instruction)
    (program : Program) (flags : Flags) : Except Failure Flow :=
  match operation with
  | .jump condition label =>
    if condition.holds flags then
      match program.resolve? label with
      | some target => .ok (.jump target)
      | none =>
        .error (.unknownLabel opcode label (instruction.locate program.name (some label)))
    else .ok .next
  | .halt => .ok .halt
  | _ => .ok .next

end RegisterMachine
