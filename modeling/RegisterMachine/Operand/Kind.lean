/-!
Kinds of operands. An operand names a register, a memory cell, a value or a label. Each position
of an opcode admits some of these kinds. An operand of an admitted kind may still be faulty.
-/

namespace RegisterMachine.Operand

inductive Kind where
  | register
  | memory
  | immediate
  | label
  deriving DecidableEq

namespace Kind

/-- Every kind, in the order in which kinds are named. -/
def all : List Kind := [register, memory, immediate, label]

def text : Kind → String
  | register => "register"
  | memory => "memory"
  | immediate => "immediate"
  | label => "label"

end Kind

/-- The kinds that a position admits. -/
abbrev Kinds := List Kind

namespace Kinds

def admits (kinds : Kinds) (kind : Kind) : Bool :=
  kinds.contains kind

/-- The names of the admitted kinds, in the fixed order. -/
def text (kinds : Kinds) : String :=
  " or ".intercalate ((Kind.all.filter (Kinds.admits kinds)).map Kind.text)

end Kinds

/-- Why the operands of an instruction have no meaning. -/
inductive Fault where
  | arity (expected found : Nat)
  | notAllowed (found : Kind) (expected : Kinds)
  | registerOutOfRange (count : Nat)
  | memoryOutOfRange (size : Nat)
  | missingAddress
  | nonNumericAddress
  | emptyLiteral
  | unknownEscape
  | literalTooLong
  | malformedNumber
  /-- The token is longer than one byte, and its first or its last byte is not a character of its
  own, so that nothing lies between quotes. No quoted token is like that. -/
  | splitCharacter
  deriving DecidableEq

def Fault.message : Fault → String
  | arity expected found =>
    "expects " ++ toString expected ++ (if expected = 1 then " operand" else " operands") ++
      ", got " ++ toString found
  | notAllowed found expected =>
    "expected " ++ Kinds.text expected ++ " operand, got " ++ found.text
  | registerOutOfRange count =>
    "register index out of range (r0..r" ++ toString (count - 1) ++ ")"
  | memoryOutOfRange size =>
    "memory address out of bounds (@0..@" ++ toString (size - 1) ++ ")"
  | missingAddress => "missing address in memory operand"
  | nonNumericAddress => "only numeric memory addresses are supported"
  | emptyLiteral => "empty character literal"
  | unknownEscape => "unknown escape sequence"
  | literalTooLong => "too many characters in literal"
  | malformedNumber => "invalid numeric literal"
  | splitCharacter => "literal cut inside a character"

end RegisterMachine.Operand
