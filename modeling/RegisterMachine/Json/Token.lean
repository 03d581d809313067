import RegisterMachine.Text.Basic

/-!
Tokens of a JSON text. The strict grammar: four kinds of white space, no leading zeros, no control
characters in strings. Numbers and strings are kept as they are written, so that nothing is lost
by reading them.
-/

namespace RegisterMachine.Json

inductive Token where
  | openBrace
  | closeBrace
  | openBracket
  | closeBracket
  | colon
  | comma
  | null
  | bool (value : Bool)
  | number (text : List Char)
  /-- What stands between the quotes of a string. -/
  | string (body : List Char)
  deriving DecidableEq

namespace Token

/-- Whether the character may stand between tokens. -/
def isSpace (c : Char) : Bool :=
  c == ' ' || c == '\n' || c == '\t' || c == '\r'

def isHexDigit (c : Char) : Bool :=
  Text.isDigitOf 16 c.toLower

/-- Whether the character after a backslash stands for one character. -/
def isEscape (c : Char) : Bool :=
  c == '"' || c == '\\' || c == '/' || c == 'b' || c == 'f' || c == 'n' || c == 'r' || c == 't'

/-- The body of a string up to its closing quote, and the text after the quote. -/
def scanString : List Char → Option (List Char × List Char)
  | [] => none
  | '"' :: rest => some ([], rest)
  | '\\' :: 'u' :: a :: b :: c :: d :: rest =>
    if [a, b, c, d].all isHexDigit then
      (scanString rest).map fun (body, rest) => ('\\' :: 'u' :: a :: b :: c :: d :: body, rest)
    else none
  | '\\' :: c :: rest =>
    if isEscape c then (scanString rest).map fun (body, rest) => ('\\' :: c :: body, rest)
    else none
  | c :: rest =>
    if c == '\\' || c.toNat < 0x20 then none
    else (scanString rest).map fun (body, rest) => (c :: body, rest)

/-- A run of digits, at least one, and the text after it. -/
def scanDigits (text : List Char) : Option (List Char × List Char) :=
  let digits := text.takeWhile Char.isDigit
  if digits.isEmpty then none else some (digits, text.dropWhile Char.isDigit)

/-- The whole part of a number: a lone zero, or digits that do not begin with one. -/
def scanWhole : List Char → Option (List Char × List Char)
  | '0' :: rest => some (['0'], rest)
  | text => scanDigits text

/-- The part after the point, if there is a point. -/
def scanFraction : List Char → Option (List Char × List Char)
  | '.' :: rest => (scanDigits rest).map fun (digits, rest) => ('.' :: digits, rest)
  | text => some ([], text)

def scanSignedDigits : List Char → Option (List Char × List Char)
  | '+' :: rest => (scanDigits rest).map fun (digits, rest) => ('+' :: digits, rest)
  | '-' :: rest => (scanDigits rest).map fun (digits, rest) => ('-' :: digits, rest)
  | text => scanDigits text

def scanExponent : List Char → Option (List Char × List Char)
  | 'e' :: rest => (scanSignedDigits rest).map fun (digits, rest) => ('e' :: digits, rest)
  | 'E' :: rest => (scanSignedDigits rest).map fun (digits, rest) => ('E' :: digits, rest)
  | text => some ([], text)

def scanUnsigned (text : List Char) : Option (List Char × List Char) := do
  let (whole, rest) ← scanWhole text
  let (fraction, rest) ← scanFraction rest
  let (exponent, rest) ← scanExponent rest
  pure (whole ++ fraction ++ exponent, rest)

def scanNumber : List Char → Option (List Char × List Char)
  | '-' :: rest => (scanUnsigned rest).map fun (digits, rest) => ('-' :: digits, rest)
  | text => scanUnsigned text

/-- The first token of a text that does not begin with white space, and the text after it. -/
def scan : List Char → Option (Token × List Char)
  | '\x7b' :: rest => some (openBrace, rest)
  | '\x7d' :: rest => some (closeBrace, rest)
  | '[' :: rest => some (openBracket, rest)
  | ']' :: rest => some (closeBracket, rest)
  | ':' :: rest => some (colon, rest)
  | ',' :: rest => some (comma, rest)
  | '"' :: rest => (scanString rest).map fun (body, rest) => (string body, rest)
  | 'n' :: 'u' :: 'l' :: 'l' :: rest => some (null, rest)
  | 't' :: 'r' :: 'u' :: 'e' :: rest => some (bool true, rest)
  | 'f' :: 'a' :: 'l' :: 's' :: 'e' :: rest => some (bool false, rest)
  | text => (scanNumber text).map fun (digits, rest) => (number digits, rest)

/-- The tokens of a text of at most `fuel` characters. -/
def scanAll : Nat → List Char → Option (List Token)
  | 0, text => if text.isEmpty then some [] else none
  | fuel + 1, text =>
    match text with
    | [] => some []
    | c :: rest =>
      if isSpace c then scanAll fuel rest
      else
        match scan (c :: rest) with
        | none => none
        | some (token, rest) => (scanAll fuel rest).map (token :: ·)

/-- The tokens of a text. Two scalars may touch; no document has them side by side. -/
def ofText? (text : List Char) : Option (List Token) :=
  scanAll text.length text

end Token

end RegisterMachine.Json
