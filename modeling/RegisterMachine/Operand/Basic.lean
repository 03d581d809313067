import RegisterMachine.Config.Basic
import RegisterMachine.Operand.Literal
import RegisterMachine.Source.Statement

/-!
Operands. A token has a kind by its shape alone: `r` and digits is a register, `@` and anything a
memory cell, a token between quotes a value, an identifier a label, and all else a number. The
kind must be admitted before the contents are looked at.
-/

namespace RegisterMachine

/-- A token with its meaning. -/
inductive Operand where
  | register (index : Nat)
  | memory (address : Nat)
  | immediate (value : Int)
  | label (name : String)
  deriving DecidableEq

namespace Operand

def kind : Operand → Kind
  | register _ => .register
  | memory _ => .memory
  | immediate _ => .immediate
  | label _ => .label

/-- Whether the token is `r` or `R` and at least one digit. -/
def isRegisterShaped : List Char → Bool
  | c :: d :: rest => (c == 'r' || c == 'R') && (d :: rest).all Char.isDigit
  | _ => false

/-- Whether the token begins and ends with the same quote; a lone quote does. -/
def isQuoted (token : List Char) : Bool :=
  match token with
  | [] => false
  | c :: _ => Source.isQuote c && token.getLast? == some c

/-- The kind of a token, judged by its shape. -/
def classify (token : List Char) : Kind :=
  if isRegisterShaped token then .register
  else if token.head? == some '@' then .memory
  else if isQuoted token then .immediate
  else if Source.isIdentifier token then .label
  else .immediate

/-- The index after the letter of a register token. -/
def registerIndex (token : List Char) (count : Nat) : Except Fault Nat :=
  match Text.numeral? 10 token.tail with
  | some index => if index < count then .ok index else .error (.registerOutOfRange count)
  | none => .error (.registerOutOfRange count)

/-- The address after the sign of a memory token. -/
def memoryAddress (token : List Char) (size : Nat) : Except Fault Nat :=
  if token.tail.isEmpty then .error .missingAddress
  else
    match Text.numeral? 10 token.tail with
    | some address => if address < size then .ok address else .error (.memoryOutOfRange size)
    | none => .error .nonNumericAddress

/-- The value of a token that is neither register, memory cell nor label. -/
def immediateValue (token : List Char) : Except Fault Int :=
  if isQuoted token then Literal.charCode token else Literal.number token

/-- The meaning of a token at a position that admits these kinds. -/
def resolve (token : String) (allowed : Kinds) (config : Config) : Except Fault Operand :=
  let chars := token.toList
  let kind := classify chars
  if Kinds.admits allowed kind then
    match kind with
    | .register => (registerIndex chars config.registerCount).map .register
    | .memory => (memoryAddress chars config.memorySize).map .memory
    | .immediate => (immediateValue chars).map .immediate
    | .label => .ok (.label token)
  else .error (.notAllowed kind allowed)

end Operand

end RegisterMachine
