/-!
Sizes and limits of a machine. A configuration fixes how many registers and memory cells a machine
has and how many cycles it may spend. Any three numbers form one; `validate` says which of them a
machine can be built from.
-/

namespace RegisterMachine

/-- The size of a machine and its cycle cap. -/
structure Config where
  registerCount : Nat := 4
  memorySize : Nat := 128
  maxCycles : Nat := 4096
  deriving DecidableEq

namespace Config

def maxRegisterCount : Nat := 256

def maxMemorySize : Nat := 65536

inductive Fault where
  | noRegisters
  | tooManyRegisters (count : Nat)
  | noMemory
  | tooMuchMemory (size : Nat)
  | noCycles
  deriving DecidableEq

def Fault.message : Fault → String
  | noRegisters => "register_count must be at least 1"
  | tooManyRegisters count =>
    "register_count " ++ toString count ++ " exceeds the maximum of " ++ toString maxRegisterCount
  | noMemory => "memory_size must be at least 1"
  | tooMuchMemory size =>
    "memory_size " ++ toString size ++ " exceeds the maximum of " ++ toString maxMemorySize
  | noCycles => "max_cycles must be at least 1"

/-- Registers are looked at first, then memory, then cycles. -/
def validate (config : Config) : Except Fault Unit :=
  if config.registerCount = 0 then .error .noRegisters
  else if maxRegisterCount < config.registerCount then
    .error (.tooManyRegisters config.registerCount)
  else if config.memorySize = 0 then .error .noMemory
  else if maxMemorySize < config.memorySize then .error (.tooMuchMemory config.memorySize)
  else if config.maxCycles = 0 then .error .noCycles
  else .ok ()

end Config

end RegisterMachine
