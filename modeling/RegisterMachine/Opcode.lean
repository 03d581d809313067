import RegisterMachine.Operand.Kind

/-!
Opcodes. The thirteen opcodes, their mnemonics, and the kinds of operands each admits at each
position.
-/

namespace RegisterMachine

inductive Opcode where
  | load | store | add | sub | inc | dec | cmp | jmp | jz | jnz | read | write | halt
  deriving DecidableEq

namespace Opcode

def all : List Opcode :=
  [load, store, add, sub, inc, dec, cmp, jmp, jz, jnz, read, write, halt]

def mnemonic : Opcode → String
  | load => "LOAD"
  | store => "STORE"
  | add => "ADD"
  | sub => "SUB"
  | inc => "INC"
  | dec => "DEC"
  | cmp => "CMP"
  | jmp => "JMP"
  | jz => "JZ"
  | jnz => "JNZ"
  | read => "READ"
  | write => "WRITE"
  | halt => "HALT"

/-- The opcode of a mnemonic, which must be in upper case. -/
def ofMnemonic? (text : String) : Option Opcode :=
  all.find? (·.mnemonic == text)

/-- The kinds admitted at each position. -/
def positions : Opcode → List Operand.Kinds
  | load => [[.register], [.register, .memory, .immediate]]
  | store => [[.register], [.memory]]
  | add => [[.register], [.register]]
  | sub => [[.register], [.register]]
  | inc => [[.register]]
  | dec => [[.register]]
  | cmp => [[.register], [.register, .immediate]]
  | jmp => [[.label]]
  | jz => [[.label]]
  | jnz => [[.label]]
  | read => [[.register]]
  | write => [[.register]]
  | halt => []

end Opcode

end RegisterMachine
