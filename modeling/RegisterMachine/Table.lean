import RegisterMachine.Machine.Trace
import RegisterMachine.Program.Inspection
import RegisterMachine.Text.Columns

/-!
Tables. Boxes of left-aligned cells. A column is as wide as its widest cell, with a blank on each
side; a short row is filled up with empty cells.
-/

namespace RegisterMachine

structure Table where
  header : List String
  rows : List (List String) := []

namespace Table

/-- The larger of two widths, position by position. -/
def widen : List Nat → List Nat → List Nat
  | [], bs => bs
  | as, [] => as
  | a :: as, b :: bs => (if a < b then b else a) :: widen as bs

def widths (table : Table) : List Nat :=
  (table.header :: table.rows).foldl (fun widths row => widen widths (row.map Text.displayWidth)) []

/-- The cells of a row, each filled up to the width of its column. -/
def cells : List Nat → List String → List String
  | [], _ => []
  | width :: widths, [] => Text.repeated (width + 2) ' ' :: cells widths []
  | width :: widths, cell :: rest =>
    (" " ++ cell ++ Text.repeated (width - Text.displayWidth cell + 1) ' ') :: cells widths rest

def rowLine (widths : List Nat) (row : List String) : String :=
  "│" ++ "┆".intercalate (cells widths row) ++ "│"

def rule (left : String) (fill : Char) (cross right : String) (widths : List Nat) : String :=
  left ++ cross.intercalate (widths.map fun width => Text.repeated (width + 2) fill) ++ right

/-- The lines of the rows with rules between them. -/
def bodyLines (widths : List Nat) : List (List String) → List String
  | [] => []
  | [row] => [rowLine widths row]
  | row :: rest => rowLine widths row :: rule "├" '╌' "┼" "┤" widths :: bodyLines widths rest

def lines (table : Table) : List String :=
  let widths := table.widths
  [rule "┌" '─' "┬" "┐" widths, rowLine widths table.header, rule "╞" '═' "╪" "╡" widths] ++
    bodyLines widths table.rows ++ [rule "└" '─' "┴" "┘" widths]

/-- The lines without a line feed at the end. -/
def render (table : Table) : String :=
  "\n".intercalate table.lines

end Table

/-- A truth value as a digit. -/
def digit (value : Bool) : String :=
  if value then "1" else "0"

def registerNames (count : Nat) : List String :=
  (List.range count).map registerName

/-- The memory cells in a row of a table. -/
def memoryColumns : Nat := 8

/-- Rows of bytes, each with the address of its first one; `fuel` bounds their number. -/
def memoryRows (address : Nat) : Nat → List UInt8 → List (List String)
  | 0, _ => []
  | _, [] => []
  | fuel + 1, bytes =>
    (Text.padStart 3 '0' (toString address) ::
        (bytes.take memoryColumns).map fun byte => toString byte.toNat) ::
      memoryRows (address + memoryColumns) fuel (bytes.drop memoryColumns)

namespace Engine

def registersTable (engine : Engine) : Table where
  header := ["Register", "Value"]
  rows :=
    let machine := engine.machine
    (registerNames machine.registers.size).zipWith (fun name (value : Int32) =>
        [name, toString value.toInt]) machine.registers.toList ++
      [["PC", toString machine.pc],
        ["Flags", "Z=" ++ digit machine.flags.zero ++ " | N=" ++ digit machine.flags.negative],
        ["Cycles", toString machine.cycles],
        ["Status", if machine.halted then "HALTED" else "READY"]]

def memoryTable (engine : Engine) : Table where
  header := "Addr" :: (List.range memoryColumns).map fun i => "+" ++ toString i
  rows := memoryRows 0 engine.machine.memory.size engine.machine.memory.toList

end Engine

def Trace.table (trace : Trace) (registerCount : Nat) : Table where
  header := ["Step", "PC", "Line", "Instruction"] ++ registerNames registerCount ++ ["Z", "N"]
  rows := trace.rows.map fun row =>
    [toString row.step, toString row.pc, toString row.line, row.text] ++
      row.registers.map (fun value => toString value.toInt) ++
      [digit row.flags.zero, digit row.flags.negative]

end RegisterMachine
