/-!
Input and output. Input is a text that is read character by character; reading past its end gives
zero. Output is a list of 16-bit codes. Neither side knows of the other.
-/

namespace RegisterMachine

/-- The text to read and the codes written. -/
structure Channel where
  input : Array Char := #[]
  /-- How many characters of the input have been read. -/
  cursor : Nat := 0
  output : Array UInt16 := #[]
  deriving DecidableEq

namespace Channel

/-- What reading gives when no input is left. -/
def endOfInput : Int32 := 0

/-- Replaces the input and starts it from the front. -/
def setInput (channel : Channel) (text : String) : Channel :=
  { channel with input := text.toList.toArray, cursor := 0 }

def read (channel : Channel) : Int32 × Channel :=
  match channel.input[channel.cursor]? with
  | some c => (Int32.ofNat c.toNat, { channel with cursor := channel.cursor + 1 })
  | none => (endOfInput, channel)

/-- Writes the low 16 bits of a word. -/
def write (channel : Channel) (value : Int32) : Channel :=
  { channel with output := channel.output.push value.toUInt32.toUInt16 }

def rewind (channel : Channel) : Channel :=
  { channel with cursor := 0 }

def clearOutput (channel : Channel) : Channel :=
  { channel with output := #[] }

def remaining (channel : Channel) : Nat :=
  channel.input.size - channel.cursor

/-- The character of an output code; a surrogate code has none and shows as U+FFFD. -/
def codeChar (code : UInt16) : Char :=
  if 0xD800 ≤ code.toNat && code.toNat ≤ 0xDFFF then Char.ofNat 0xFFFD else Char.ofNat code.toNat

def outputText (channel : Channel) : String :=
  String.ofList (channel.output.toList.map codeChar)

end Channel

end RegisterMachine
