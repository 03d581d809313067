import RegisterMachine.Text.Basic
import RegisterMachine.Text.Uppercase

/-!
What one line says. A line holds an optional label, an optional mnemonic with operands, and an
optional comment: `name: OP a, b ; comment`. Comment marks and commas in quoted spans are plain
text. A single or double quote opens a span that runs to the next such quote; inside it a backslash
takes the meaning from the character after it, and the quotes belong to the span. Any line can be
read; whether the mnemonic and the operands mean something is not asked here.
-/

namespace RegisterMachine.Source

/-- Where a reader of a line stands. -/
inductive Quotation where
  | outside
  /-- In a span opened by this quote. -/
  | inside (quote : Char)
  /-- In a span opened by this quote, right after a backslash. -/
  | escaped (quote : Char)
  deriving DecidableEq

def isQuote (c : Char) : Bool :=
  c == '\'' || c == '"'

namespace Quotation

/-- Where the reader stands after a character. -/
def next : Quotation → Char → Quotation
  | outside, c => if isQuote c then inside c else outside
  | inside quote, c =>
    if c == '\\' then escaped quote else if c == quote then outside else inside quote
  | escaped quote, _ => inside quote

/-- Whether the next character belongs to a span. -/
def covers : Quotation → Char → Bool
  | outside, c => isQuote c
  | inside _, _ => true
  | escaped _, _ => true

end Quotation

def isCommentMark (c : Char) : Bool :=
  c == ';' || c == '#'

/-- The line up to its comment, read from the given state. -/
def uncommented : Quotation → List Char → List Char
  | _, [] => []
  | state, c :: rest =>
    if !state.covers c && isCommentMark c then [] else c :: uncommented (state.next c) rest

/-- Whether the text is a letter or underscore followed by letters, digits and underscores, all of
them ASCII. -/
def isIdentifier : List Char → Bool
  | [] => false
  | c :: rest => (c.isAlpha || c == '_') && rest.all fun c => c.isAlphanum || c == '_'

/-- The label in front of the first colon and the text after it. -/
def splitLabel? (text : List Char) : Option (List Char × List Char) :=
  match text.dropWhile (· != ':') with
  | [] => none
  | _ :: rest =>
    let name := text.takeWhile (· != ':')
    if isIdentifier name then some (name, Text.trim rest) else none

/-- The text up to the first blank, and the text after it. -/
def splitMnemonic (text : List Char) : List Char × List Char :=
  (text.takeWhile (!Text.isBlank ·), Text.trim (text.dropWhile (!Text.isBlank ·)))

/-- The pieces between commas outside quoted spans. -/
def fragments : Quotation → List Char → List (List Char)
  | _, [] => [[]]
  | state, c :: rest =>
    if !state.covers c && c == ',' then [] :: fragments (state.next c) rest
    else Text.consFirst c (fragments (state.next c) rest)

/-- The operand tokens of a text: its pieces without outer blanks, and without empty ones. -/
def operandTokens (text : List Char) : List (List Char) :=
  ((fragments .outside text).map Text.trim).filter (!·.isEmpty)

/-- A mnemonic in upper case and its operand tokens. -/
structure Action where
  opcode : String
  operands : List String
  deriving DecidableEq

/-- The action of a text without label and comment; an empty text has none. -/
def Action.ofText? (text : List Char) : Option Action :=
  if text.isEmpty then none
  else
    let (mnemonic, rest) := splitMnemonic text
    some ⟨String.ofList (Text.uppercase mnemonic), (operandTokens rest).map String.ofList⟩

/-- What a line defines and does. -/
structure Statement where
  label : Option String
  action : Option Action
  deriving DecidableEq

def Statement.ofLine (raw : List Char) : Statement :=
  let text := Text.trim (uncommented .outside raw)
  match splitLabel? text with
  | some (name, rest) => ⟨some (String.ofList name), Action.ofText? rest⟩
  | none => ⟨none, Action.ofText? text⟩

end RegisterMachine.Source
