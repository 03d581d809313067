import RegisterMachine.Json.Basic
import RegisterMachine.Report.Diagnostic

/-!
Reports. A report is a diagnostic for a reader: with a code, and a hint where there is one. It is
shown with the source line it is about and carets under the token, or written as JSON. On a terminal
a styled text is led in by control sequences and followed by one that resets the terminal, even if
it is empty. Without colour it is plain.
-/

namespace RegisterMachine

inductive Style where
  | red | green | yellow | blue | white | cyan | onRed | bold
  deriving DecidableEq

namespace Style

def code : Style → Nat
  | red => 31
  | green => 32
  | yellow => 33
  | blue => 34
  | cyan => 36
  | white => 37
  | onRed => 41
  | bold => 1

def sequence (code : Nat) : String :=
  "\x1b[" ++ toString code ++ "m"

/-- A text in some styles, if there is colour at all. -/
def paint (coloured : Bool) (styles : List Style) (text : String) : String :=
  if coloured then String.join (styles.map (sequence ·.code)) ++ text ++ sequence 0 else text

end Style

structure Report where
  message : String
  severity : Severity
  location : Option Location := none
  code : Option Nat := none
  token : Option String := none
  suggestion : Option String := none
  deriving DecidableEq

namespace Report

def codeText (code : Nat) : String :=
  "E_" ++ toString code

/-- The code of failures to read a file. -/
def ioCode : Nat := 6

def ofDiagnostic (diagnostic : Diagnostic) (code : Nat) (suggestion : Option String) : Report :=
  ⟨diagnostic.message, diagnostic.severity, diagnostic.location, some code, diagnostic.token,
    suggestion⟩

/-- The code and the hint of a failure. -/
def advice : Failure → Nat × Option String
  | .duplicateLabel _ => (1, some "rename or remove one of the definitions")
  | .badOperand _ _ _ _ => (2, none)
  | .unknownLabel _ _ _ => (3, some "define the label or fix the jump target")
  | .pcOutOfBounds _ _ _ => (4, some "end the program with HALT")
  | .cycleLimit _ _ => (5, some "check for loops that never reach HALT")
  | _ => (4, none)

def ofFailure (failure : Failure) : Report :=
  ofDiagnostic failure.diagnostic (advice failure).1 (advice failure).2

/-- The report in one line. -/
def text (report : Report) : String :=
  "[" ++ report.severity.text ++ "]" ++
    (report.location.map fun location => " at " ++ location.text).getD "" ++
    (report.code.map fun code => " (" ++ codeText code ++ ")").getD "" ++
    ": " ++ report.message

def tagStyles : Severity → List Style
  | .fatal => [.white, .onRed, .bold]
  | .error => [.red, .bold]
  | .warning => [.yellow, .bold]
  | .info => [.blue, .bold]

def caretCount (token : Option String) : Nat :=
  match token with
  | some text => if text.length = 0 then 1 else text.length
  | none => 1

def snippetLine (location : Location) (line : List Char) : String :=
  " " ++ Text.padStart 4 ' ' (toString location.line) ++ " | " ++
    String.ofList (Text.dropReturns line)

def caretLine (location : Location) (token : Option String) : String :=
  "      | " ++ Text.repeated (location.column - 1) ' ' ++ Text.repeated (caretCount token) '^'

/-- The lines about a location: where it is and, if the source has that line, how it looks. -/
def renderLocation (coloured : Bool) (source : String) (token : Option String)
    (location : Location) : String :=
  " --> " ++ location.text ++ "\n" ++
    match (Text.lines source.toList)[location.line - 1]? with
    | some line =>
      snippetLine location line ++ "\n" ++
        Style.paint coloured [.green] (caretLine location token) ++ "\n"
    | none => ""

def render (report : Report) (coloured : Bool) (source : String) : String :=
  Style.paint coloured (tagStyles report.severity) ("[" ++ report.severity.text ++ "]") ++ " " ++
    Style.paint coloured [.bold] report.message ++ "\n" ++
    (report.location.map (renderLocation coloured source report.token)).getD "" ++
    (report.suggestion.map fun hint =>
      Style.paint coloured [.cyan] ("Suggestion: " ++ hint) ++ "\n").getD ""

def locationJson (location : Location) : Json :=
  .object [("file", .string location.file), ("line", .number location.line),
    ("column", .number location.column)]

def toJson (report : Report) : Json :=
  .object [("message", .string report.message), ("severity", .string report.severity.name),
    ("location", Json.optional locationJson report.location),
    ("code", Json.optional (fun (code : Nat) => .number code) report.code),
    ("token", Json.optional .string report.token),
    ("suggestion", Json.optional .string report.suggestion)]

end Report

end RegisterMachine
