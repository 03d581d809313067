import RegisterMachine.Operand.Kind
import RegisterMachine.Text.Basic

/-!
Literal values. A value is written as a character between quotes, which stands for its code point,
or as an integer: `0x` and hexadecimal digits, `0b` and binary digits, or decimal digits after an
optional sign. The integer must fit in 64 bits with sign.
-/

namespace RegisterMachine.Operand.Literal

/-- The number of bytes a text takes in UTF-8. -/
def byteLength (text : List Char) : Nat :=
  text.foldl (fun total c => total + c.utf8Size) 0

/-- The text without its first and its last byte; a text of at most one byte has an empty body.
There is none when a cut would fall inside a character. -/
def body? (token : List Char) : Option (List Char) :=
  if byteLength token < 2 then some []
  else
    match token.head?, token.getLast? with
    | some first, some last =>
      if first.utf8Size = 1 ∧ last.utf8Size = 1 then some token.tail.dropLast else none
    | _, _ => none

def escape? : Char → Option Char
  | 'n' => some '\n'
  | 'r' => some '\r'
  | 't' => some '\t'
  | '\\' => some '\\'
  | '\'' => some '\''
  | '"' => some '"'
  | _ => none

def charCode (token : List Char) : Except Fault Int :=
  match body? token with
  | none => .error .splitCharacter
  | some [] => .error .emptyLiteral
  | some [c] => .ok c.toNat
  | some ['\\', letter] =>
    match escape? letter with
    | some c => .ok c.toNat
    | none => .error .unknownEscape
  | some _ => .error .literalTooLong

/-- Whether the value fits in 64 bits with sign. -/
def fits (value : Int) : Bool :=
  decide (-0x8000000000000000 ≤ value) && decide (value < 0x8000000000000000)

def signed (negative : Bool) (radix : Nat) (digits : List Char) : Except Fault Int :=
  match Text.numeral? radix digits with
  | none => .error .malformedNumber
  | some magnitude =>
    let value : Int := if negative then -magnitude else magnitude
    if fits value then .ok value else .error .malformedNumber

def number (token : List Char) : Except Fault Int :=
  match token.map Char.toLower with
  | '0' :: 'x' :: digits => signed false 16 digits
  | '0' :: 'b' :: digits => signed false 2 digits
  | '-' :: digits => signed true 10 digits
  | '+' :: digits => signed false 10 digits
  | digits => signed false 10 digits

end RegisterMachine.Operand.Literal
