import RegisterMachine.Command.Invocation
import RegisterMachine.Config.Document
import RegisterMachine.Program.Inspection
import RegisterMachine.Program.Sample
import RegisterMachine.Report.Collector
import RegisterMachine.Source.Script
import RegisterMachine.Table

/-!
Responses. What an invocation prints and which code it ends with, given the files it can read. The
code is 1 when something could not be loaded or a check found errors, and 2 when an execution
failed.
-/

namespace RegisterMachine.Command

structure Colours where
  out : Bool := false
  err : Bool := false

/-- What an invocation comes to. -/
structure Response where
  code : Nat := 0
  out : String := ""
  err : String := ""
  /-- What the engine noted down on the way. -/
  journal : List Journal.Entry := []
  deriving DecidableEq

structure Context where
  read : String → Except ReadFault String
  colours : Colours := {}
  config : Config := {}

namespace Context

def plainError (context : Context) (message : String) : Response where
  code := 1
  err := Style.paint context.colours.err [.red, .bold] "[ERROR]" ++ " " ++ message ++ "\n"

/-- A report on the error stream. -/
def reportText (context : Context) (report : Report) (source : String) : String :=
  report.render context.colours.err source

def script (context : Context) (file : String) : Except Response Script :=
  match Script.load context.read file with
  | .ok script => .ok script
  | .error missing => .error { code := 1, err := context.reportText missing.report "" }

def input (context : Context) : InputSource → Except Response String
  | .text text => .ok text
  | .file path =>
    match context.read path with
    | .ok text => .ok text
    | .error fault =>
      let message := "Cannot read input file '" ++ path ++ "': " ++ fault.message
      let report : Report :=
        { message := message, severity := .error, code := some Report.ioCode }
      .error { code := 1, err := context.reportText report "" }

def engine (context : Context) (script : Script) (input : String) : Except Response Engine :=
  match Engine.new? context.config with
  | .error fault => .error (context.plainError fault.message)
  | .ok engine =>
    match engine.load script.name script.content with
    | (.error failure, _) =>
      .error { code := 1, err := context.reportText (Report.ofFailure failure) script.content }
    | (.ok (), engine) => .ok (engine.setInput input)

def prepare (context : Context) (file : String) (input : InputSource) :
    Except Response (Script × Engine) := do
  let script ← context.script file
  let text ← context.input input
  let engine ← context.engine script text
  pure (script, engine)

def dumpJson (result : Except Failure RunStatus) (engine : Engine) : Json :=
  let machine := engine.machine
  let (steps, error) := match result with
    | .ok status => (Json.number status.steps, Json.null)
    | .error failure => (Json.null, Json.string failure.text)
  .object [("steps", steps), ("error", error),
    ("snapshot", .object [
      ("registers", .array (machine.registers.toList.map fun value => .number value.toInt)),
      ("memory", .array (machine.memory.toList.map fun byte => .number byte.toNat)),
      ("flags", .object [("zero", .bool machine.flags.zero),
        ("negative", .bool machine.flags.negative)]),
      ("pc", .number machine.pc), ("halted", .bool machine.halted),
      ("cycles", .number machine.cycles), ("output", .string engine.outputText)])]

def dumpText (result : Except Failure RunStatus) (engine : Engine) : Option Dump → String
  | none => ""
  | some .state => engine.registersTable.render ++ "\n" ++ engine.memoryTable.render ++ "\n"
  | some .json => (dumpJson result engine).pretty ++ "\n"

def run (context : Context) (file : String) (input : InputSource) (dump : Option Dump) :
    Response :=
  match context.prepare file input with
  | .error response => response
  | .ok (script, engine) =>
    let (result, after) := engine.run
    let response : Response :=
      { out := after.outputText ++ dumpText result after dump
        journal := Journal.load script.name script.content ++ Journal.run engine }
    match result with
    | .ok _ => response
    | .error failure =>
      { response with
        code := 2
        err := context.reportText (Report.ofFailure failure) script.content }

def traceText (context : Context) (trace : Trace) (count : Nat) : String :=
  let output := trace.engine.outputText
  (trace.table trace.engine.config.registerCount).render ++ "\n" ++
    (if output.isEmpty then ""
      else Style.paint context.colours.out [.bold] "output:" ++ " " ++
        Text.quoted output ++ "\n") ++
    (if trace.engine.machine.halted then ""
      else Style.paint context.colours.out [.yellow]
        ("stopped after " ++ toString count ++ " steps") ++ "\n")

def traceJournal (engine : Engine) : Nat → List Journal.Entry
  | 0 => []
  | count + 1 =>
    if engine.machine.halted then []
    else
      Journal.step engine ++
        match engine.step with
        | (.error _, _) => []
        | (.ok _, engine) => traceJournal engine count

def step (context : Context) (file : String) (input : InputSource) (count : Nat) : Response :=
  match context.prepare file input with
  | .error response => response
  | .ok (script, engine) =>
    let trace := engine.trace 1 count
    let response : Response :=
      { out := context.traceText trace count
        journal := Journal.load script.name script.content ++ traceJournal engine count }
    match trace.failure with
    | none => response
    | some failure =>
      { response with
        code := 2
        err := context.reportText (Report.ofFailure failure) script.content }

/-- The problems of a script, and its program if it has one. -/
def collect (script : Script) (config : Config) : Option Program × Collector :=
  match script.assemble with
  | .ok program =>
    (some program, ({} : Collector).extend ((program.check config).map Report.ofFailure))
  | .error duplicate =>
    (none, ({} : Collector).push (Report.ofFailure (.duplicateLabel duplicate)))

def check (context : Context) (file : String) (format : Format) : Response :=
  match context.script file with
  | .error response => response
  | .ok script =>
    let (program, collector) := collect script context.config
    let response : Response :=
      { code := if collector.hasErrors then 1 else 0
        journal := Journal.assembling script.name script.content }
    match format with
    | .json => { response with out := collector.toJson.pretty ++ "\n" }
    | .text =>
      if collector.isEmpty then
        { response with
          out := Style.paint context.colours.out [.green, .bold] "ok" ++ " " ++
            script.name ++ ": " ++ toString ((program.map (·.size)).getD 0) ++
            " instructions, no problems found\n" }
      else
        { response with
          err := collector.render context.colours.err script.content ++
            toString (collector.count .fatal + collector.count .error) ++ " error(s), " ++
            toString (collector.count .warning) ++ " warning(s)\n" }

def list (context : Context) (file : String) : Response :=
  match context.script file with
  | .error response => response
  | .ok script =>
    match script.assemble with
    | .ok program =>
      { out := program.listing context.config
        journal := Journal.assembling script.name script.content }
    | .error duplicate =>
      let report := Report.ofFailure (.duplicateLabel duplicate)
      { code := 1, err := context.reportText report script.content }

def perform (context : Context) : Action → Response
  | .run file input dump => context.run file input dump
  | .step file input count => context.step file input count
  | .check file format => context.check file format
  | .list file => context.list file
  | .sample name => { out := (sampleSource? name).getD helloSource }

end Context

def versionText : String := "tinyvm 0.1.0\n"

/-- The answer to a call for help, on the output stream with code 0. Its wording and layout are this
library's own. -/
def helpText : String :=
  "Assemble, inspect and run programs for a four-register toy machine\n\n" ++
  "Usage: tinyvm [OPTIONS] [COMMAND]\n\n" ++
  "Commands:\n" ++
  "  run FILE      Run a program to completion and print its output\n" ++
  "                  [-i, --input TEXT] [--input-file PATH] [-d, --dump state|json]\n" ++
  "  step FILE     Execute a program one instruction at a time and print a trace\n" ++
  "                  [-i, --input TEXT] [--input-file PATH] [-n, --count N]\n" ++
  "  check FILE    Assemble a program and report problems without running it\n" ++
  "                  [-f, --format text|json]\n" ++
  "  list FILE     Print the assembled program listing\n" ++
  "  sample [NAME] Print a built-in sample program: hello or echo\n\n" ++
  "Options:\n" ++
  "      --log-level LEVEL  Log level: off, error, warn, info, debug or trace\n" ++
  "  -c, --config FILE      JSON machine configuration\n" ++
  "  -h, --help             Print help\n" ++
  "  -V, --version          Print version\n"

/-- What is said to arguments that do not suit the program, on the error stream with code 2. It is
in this library's own words, and does not tell which argument is at fault. -/
def usageText : String :=
  "error: unsuitable arguments\n\nFor more information, try '--help'.\n"

/-- What is printed when there is nothing to do. -/
def idleText : String :=
  "No valid subcommand was used. Use --help for more information.\n"

/-- The entries of the journal that are to be shown; without a word for it, those of warnings. -/
def Response.shownEntries (response : Response) (logLevel : Option String) : List Journal.Entry :=
  match logLevel with
  | none => Journal.upTo .warn response.journal
  | some word =>
    match Journal.Level.ofText? word with
    | some level => Journal.upTo level response.journal
    | none => []

/-- Carries out an invocation. The configuration comes first: without it nothing is done. -/
def Invocation.respond (invocation : Invocation) (read : String → Except ReadFault String)
    (colours : Colours) : Response :=
  let context : Context := { read := read, colours := colours }
  let config := match invocation.config with
    | some path => Config.load read path
    | none => .ok {}
  match config with
  | .error error => context.plainError error.message
  | .ok config =>
    match invocation.action with
    | some action => { context with config := config }.perform action
    | none => { out := idleText }

end RegisterMachine.Command
