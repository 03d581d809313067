import RegisterMachine.Json.Token

/-!
JSON documents. The tree of a JSON text, with numbers and strings as they are written. Decoding a
string is a step of its own, since only some of them have to denote a text.
-/

namespace RegisterMachine.Json

inductive Document where
  | null
  | bool (value : Bool)
  | number (text : List Char)
  | string (body : List Char)
  | array (items : List Document)
  | object (members : List (List Char × Document))

namespace Document

mutual

/-- A value at the front of the tokens, and the tokens after it. -/
def readValue : Nat → List Token → Option (Document × List Token)
  | 0, _ => none
  | fuel + 1, tokens =>
    match tokens with
    | .null :: rest => some (null, rest)
    | .bool value :: rest => some (bool value, rest)
    | .number text :: rest => some (number text, rest)
    | .string body :: rest => some (string body, rest)
    | .openBracket :: .closeBracket :: rest => some (array [], rest)
    | .openBracket :: rest => (readItems fuel rest).map fun (items, rest) => (array items, rest)
    | .openBrace :: .closeBrace :: rest => some (object [], rest)
    | .openBrace :: rest =>
      (readMembers fuel rest).map fun (members, rest) => (object members, rest)
    | _ => none

/-- The items of an array up to its end. -/
def readItems : Nat → List Token → Option (List Document × List Token)
  | 0, _ => none
  | fuel + 1, tokens =>
    match readValue fuel tokens with
    | some (item, .comma :: rest) =>
      (readItems fuel rest).map fun (items, rest) => (item :: items, rest)
    | some (item, .closeBracket :: rest) => some ([item], rest)
    | _ => none

/-- The members of an object up to its end. -/
def readMembers : Nat → List Token → Option (List (List Char × Document) × List Token)
  | 0, _ => none
  | fuel + 1, tokens =>
    match tokens with
    | .string key :: .colon :: rest =>
      match readValue fuel rest with
      | some (value, .comma :: rest) =>
        (readMembers fuel rest).map fun (members, rest) => ((key, value) :: members, rest)
      | some (value, .closeBrace :: rest) => some ([(key, value)], rest)
      | _ => none
    | _ => none

end

/-- The document of a text, if the text is one. A value takes at most two calls a token. -/
def ofText? (text : List Char) : Option Document :=
  match Token.ofText? text with
  | none => none
  | some tokens =>
    match readValue (2 * tokens.length + 1) tokens with
    | some (document, []) => some document
    | _ => none

end Document

def hexValue (a b c d : Char) : Nat :=
  Text.numeralValue 16 ([a, b, c, d].map Char.toLower)

/-- The character that a backslash and this letter stand for in a string. -/
def unescape? : Char → Option Char
  | '"' => some '"'
  | '\\' => some '\\'
  | '/' => some '/'
  | 'b' => some '\x08'
  | 'f' => some '\x0c'
  | 'n' => some '\n'
  | 'r' => some '\r'
  | 't' => some '\t'
  | _ => none

def isHighSurrogate (n : Nat) : Bool :=
  0xD800 ≤ n && n ≤ 0xDBFF

def isLowSurrogate (n : Nat) : Bool :=
  0xDC00 ≤ n && n ≤ 0xDFFF

/-- The text that the body of a string denotes. A surrogate outside a pair denotes none. -/
def decodeString? : List Char → Option (List Char)
  | [] => some []
  | '\\' :: 'u' :: a :: b :: c :: d :: rest =>
    let code := hexValue a b c d
    if isLowSurrogate code then none
    else if isHighSurrogate code then
      match rest with
      | '\\' :: 'u' :: e :: f :: g :: h :: rest =>
        let second := hexValue e f g h
        if isLowSurrogate second then
          let pair := 0x10000 + (code - 0xD800) * 0x400 + (second - 0xDC00)
          (decodeString? rest).map (Char.ofNat pair :: ·)
        else none
      | _ => none
    else (decodeString? rest).map (Char.ofNat code :: ·)
  | '\\' :: c :: rest =>
    match unescape? c with
    | some c => (decodeString? rest).map (c :: ·)
    | none => none
  | c :: rest => (decodeString? rest).map (c :: ·)

end RegisterMachine.Json
