import RegisterMachine.Command.Response

/-!
The command line. Reads the arguments, the environment and the files that are asked for, and
prints the response.
-/

namespace RegisterMachine

def readFault : IO.Error → ReadFault
  | .noFileOrDirectory _ _ _ => .notFound
  | .inappropriateType _ code _ => if code = 21 then .isDirectory else .notDirectory
  | .invalidArgument _ _ _ => .nameTooLong
  | .permissionDenied _ _ _ => .other "Permission denied (os error 13)"
  | error => .other (toString error)

def readText (path : String) : IO (Except ReadFault String) := do
  match ← (IO.FS.readBinFile ⟨path⟩).toBaseIO with
  | .error error => return .error (readFault error)
  | .ok contents =>
    match String.fromUTF8? contents with
    | some text => return .ok text
    | none => return .error .notText

/-- Prints the response to an invocation and gives its code. -/
def serve (invocation : Command.Invocation) : IO UInt32 := do
  let texts ← invocation.paths.mapM fun path => do return (path, ← readText path)
  let out ← IO.getStdout
  let err ← IO.getStderr
  let colours : Command.Colours := ⟨← out.isTty, ← err.isTty⟩
  let read (path : String) : Except ReadFault String :=
    (texts.lookup path).getD (.error .notFound)
  let response := invocation.respond read colours
  for entry in response.shownEntries invocation.logLevel do
    err.putStrLn (Text.padEnd 5 ' ' entry.level.text ++ " " ++ entry.message)
  out.putStr response.out
  out.flush
  err.putStr response.err
  return response.code.toUInt32

end RegisterMachine

open RegisterMachine in
def main (arguments : List String) : IO UInt32 := do
  let environment : Command.Environment :=
    { config := ← IO.getEnv "TINYVM_CONFIG", logLevel := ← IO.getEnv "TINYVM_LOG" }
  match Command.Invocation.ofArguments environment arguments with
  | .usage =>
    IO.eprint Command.usageText
    return 2
  | .help =>
    IO.print Command.helpText
    return 0
  | .version =>
    IO.print Command.versionText
    return 0
  | .ok invocation => serve invocation
