import RegisterMachine.Program.Basic
import RegisterMachine.Source.Statement

/-!
Assembling. A source becomes a program line by line. The one thing that can go wrong is that a
label is defined twice; the first line that does so is reported.
-/

namespace RegisterMachine

structure DuplicateLabel where
  label : String
  firstLine : Nat
  location : Location
  deriving DecidableEq

namespace Program

/-- Appends the instruction of a line, if it has one. -/
def addAction (program : Program) (line : Nat) (raw : String) :
    Option Source.Action → Program
  | none => program
  | some action =>
    let instruction := ⟨action.opcode, action.operands, line, raw⟩
    { program with instructions := program.instructions.push instruction }

def addLabel (program : Program) (name : String) (line : Nat) : Program :=
  { program with labels := program.labels ++ [⟨name, program.size, line⟩] }

def addLine (program : Program) (line : Nat) (raw : List Char) :
    Except DuplicateLabel Program :=
  let statement := Source.Statement.ofLine raw
  let text := String.ofList raw
  match statement.label with
  | none => .ok (program.addAction line text statement.action)
  | some name =>
    match program.findLabel? name with
    | some first =>
      .error ⟨name, first.line, Location.ofToken program.name line text (some name)⟩
    | none => .ok ((program.addLabel name line).addAction line text statement.action)

/-- Appends lines, the first of which has the given number. -/
def addLines (program : Program) (line : Nat) : List (List Char) → Except DuplicateLabel Program
  | [] => .ok program
  | raw :: rest =>
    match program.addLine line (Text.dropReturn raw) with
    | .ok program => program.addLines (line + 1) rest
    | .error duplicate => .error duplicate

/-- The name of a source that came from no file. -/
def anonymous : String := "<input>"

def assemble (name source : String) : Except DuplicateLabel Program :=
  (empty name).addLines 1 (Text.lines source.toList)

end Program

end RegisterMachine
