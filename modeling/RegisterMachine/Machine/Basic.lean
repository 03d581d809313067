import RegisterMachine.Config.Basic

/-!
Machine state. Registers hold 32-bit words with sign, memory holds bytes. Writing a register sets
the flags from the written value. An access outside the machine has no result.
-/

namespace RegisterMachine

structure Flags where
  zero : Bool := false
  negative : Bool := false
  deriving DecidableEq

def Flags.ofInt (value : Int) : Flags :=
  ⟨value == 0, decide (value < 0)⟩

structure Machine where
  registers : Array Int32
  memory : Array UInt8
  flags : Flags := {}
  pc : Nat := 0
  halted : Bool := false
  /-- How many instructions have been executed. -/
  cycles : Nat := 0
  deriving DecidableEq

namespace Machine

/-- A machine of the given size, all zero. -/
def new (config : Config) : Machine where
  registers := Array.replicate config.registerCount 0
  memory := Array.replicate config.memorySize 0

/-- The machine at its start. Memory is kept unless it is to be cleared too. -/
def reset (machine : Machine) (clearMemory : Bool) : Machine where
  registers := Array.replicate machine.registers.size 0
  memory := if clearMemory then Array.replicate machine.memory.size 0 else machine.memory

def readRegister? (machine : Machine) (index : Nat) : Option Int32 :=
  machine.registers[index]?

/-- Puts a word into a register and sets the flags from it. -/
def writeRegister? (machine : Machine) (index : Nat) (value : Int32) : Option Machine :=
  if index < machine.registers.size then
    some { machine with
      registers := machine.registers.setIfInBounds index value
      flags := Flags.ofInt value.toInt }
  else none

/-- The byte in a memory cell, as a word. -/
def readMemory? (machine : Machine) (address : Nat) : Option Int32 :=
  machine.memory[address]?.map fun byte => Int32.ofNat byte.toNat

/-- Puts the low byte of a word into a memory cell. -/
def writeMemory? (machine : Machine) (address : Nat) (value : Int32) : Option Machine :=
  if address < machine.memory.size then
    some { machine with
      memory := machine.memory.setIfInBounds address value.toUInt32.toUInt8 }
  else none

end Machine

end RegisterMachine
