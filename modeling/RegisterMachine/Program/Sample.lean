/-!
Sample programs.
-/

namespace RegisterMachine

/-- Prints `HELLO!` and a line feed. -/
def helloSource : String :=
  "; Prints HELLO! and a newline\n" ++
  "start:\n" ++
  "    LOAD r0, 'H'\n" ++
  "    WRITE r0\n" ++
  "    LOAD r0, 'E'\n" ++
  "    WRITE r0\n" ++
  "    LOAD r0, 'L'\n" ++
  "    WRITE r0\n" ++
  "    LOAD r0, 'L'\n" ++
  "    WRITE r0\n" ++
  "    LOAD r0, 'O'\n" ++
  "    WRITE r0\n" ++
  "    LOAD r0, '!'\n" ++
  "    WRITE r0\n" ++
  "    LOAD r0, '\\n'\n" ++
  "    WRITE r0\n" ++
  "    HALT\n"

/-- Copies the input to the output until reading gives zero. -/
def echoSource : String :=
  "; Echoes the input back\n" ++
  "loop:\n" ++
  "    READ r0\n" ++
  "    CMP r0, 0\n" ++
  "    JZ done\n" ++
  "    WRITE r0\n" ++
  "    JMP loop\n" ++
  "done:\n" ++
  "    HALT\n"

def sampleSource? : String → Option String
  | "hello" => some helloSource
  | "echo" => some echoSource
  | _ => none

end RegisterMachine
