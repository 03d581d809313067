/-!
Texts. White space is that of the Unicode property White_Space, which holds of 25 characters;
joiners and byte order marks are not among them. A line ends with a line feed, or with a carriage
return and a line feed; the last line may lack its end, and then keeps a carriage return it ends in.
A text that ends with a line feed has no further, empty line. Digits are those of a radix up to
sixteen, with letters in lower case from ten on.
-/

namespace RegisterMachine.Text

/-- The code points from the first number to the second, both included. -/
abbrev CodeRange := Nat × Nat

/-- Whether the character lies in one of the ranges. -/
def inRanges (ranges : List CodeRange) (c : Char) : Bool :=
  ranges.any fun r => r.1 ≤ c.toNat && c.toNat ≤ r.2

def isBlank (c : Char) : Bool :=
  let n := c.toNat
  (0x09 ≤ n && n ≤ 0x0D) || n == 0x20 || n == 0x85 || n == 0xA0 || n == 0x1680 ||
    (0x2000 ≤ n && n ≤ 0x200A) || n == 0x2028 || n == 0x2029 || n == 0x202F || n == 0x205F ||
    n == 0x3000

def trimStart (text : List Char) : List Char :=
  text.dropWhile isBlank

def trimEnd (text : List Char) : List Char :=
  (text.reverse.dropWhile isBlank).reverse

def trim (text : List Char) : List Char :=
  trimEnd (trimStart text)

/-- Puts a character at the start of the first line, opening a line if there is none. -/
def consFirst (c : Char) : List (List Char) → List (List Char)
  | [] => [[c]]
  | first :: rest => (c :: first) :: rest

/-- The lines of a text, without their ends. -/
def lines : List Char → List (List Char)
  | [] => []
  | '\n' :: rest => [] :: lines rest
  | '\r' :: '\n' :: rest => [] :: lines rest
  | c :: rest => consFirst c (lines rest)

/-- Drops one carriage return at the end, if there is one. -/
def dropReturn (line : List Char) : List Char :=
  if line.getLast? = some '\r' then line.dropLast else line

/-- Drops all carriage returns at the end. -/
def dropReturns (line : List Char) : List Char :=
  (line.reverse.dropWhile (· == '\r')).reverse

/-- The number of characters before the first occurrence of `needle`. -/
def indexOf? (needle : List Char) : List Char → Option Nat
  | [] => if needle.isEmpty then some 0 else none
  | c :: rest =>
    if needle.isPrefixOf (c :: rest) then some 0
    else (indexOf? needle rest).map (· + 1)

/-- Whether the first text comes before the second, or equals it, code point by code point. -/
def precedes : List Char → List Char → Bool
  | [], _ => true
  | _ :: _, [] => false
  | a :: as, b :: bs =>
    if a.toNat == b.toNat then precedes as bs else decide (a.toNat < b.toNat)

def repeated (count : Nat) (c : Char) : String :=
  String.ofList (List.replicate count c)

def padStart (width : Nat) (fill : Char) (text : String) : String :=
  repeated (width - text.length) fill ++ text

def padEnd (width : Nat) (fill : Char) (text : String) : String :=
  text ++ repeated (width - text.length) fill

/-- The value of a digit; a character that is no digit has the value sixteen. -/
def digitValue (c : Char) : Nat :=
  if c.isDigit then c.toNat - 48
  else if 97 ≤ c.toNat && c.toNat ≤ 102 then c.toNat - 87
  else 16

def isDigitOf (radix : Nat) (c : Char) : Bool :=
  digitValue c < radix

def numeralValue (radix : Nat) (digits : List Char) : Nat :=
  digits.foldl (fun value c => value * radix + digitValue c) 0

/-- The number that a text of digits spells; the empty text spells none. -/
def numeral? (radix : Nat) (digits : List Char) : Option Nat :=
  if digits.isEmpty || !digits.all (isDigitOf radix) then none
  else some (numeralValue radix digits)

/-- A number in hexadecimal, without leading zeros. -/
def hexadecimal (n : Nat) : List Char :=
  Nat.toDigits 16 n

end RegisterMachine.Text
