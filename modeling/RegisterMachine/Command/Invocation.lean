import RegisterMachine.Command.Arguments
import RegisterMachine.Journal

/-!
Invocations. What a command line asks for. Two options, for the configuration file and for the
journal, belong to the program as a whole and may stand before or after the command; the one after
it wins. Below both stand the values of two environment variables.
-/

namespace RegisterMachine.Command

inductive InputSource where
  | text (text : String)
  | file (path : String)
  deriving DecidableEq

/-- How the final state is shown. -/
inductive Dump where
  | state
  | json
  deriving DecidableEq

/-- How reports are shown. -/
inductive Format where
  | text
  | json
  deriving DecidableEq

inductive Action where
  | run (file : String) (input : InputSource) (dump : Option Dump)
  | step (file : String) (input : InputSource) (count : Nat)
  | check (file : String) (format : Format)
  | list (file : String)
  | sample (name : String)
  deriving DecidableEq

/-- A command line with its meaning. -/
structure Invocation where
  config : Option String
  /-- The word for the least important entries of the journal to be shown. -/
  logLevel : Option String
  action : Option Action
  deriving DecidableEq

def InputSource.path? : InputSource → Option String
  | text _ => none
  | file path => some path

def Action.paths : Action → List String
  | run file input _ => file :: input.path?.toList
  | step file input _ => file :: input.path?.toList
  | check file _ => [file]
  | list file => [file]
  | sample _ => []

def Invocation.paths (invocation : Invocation) : List String :=
  invocation.config.toList ++ (invocation.action.map Action.paths).getD []

/-- An unsigned integer of at most 64 bits, with an optional plus sign. -/
def count? (text : String) : Option Nat :=
  let digits := match text.toList with
    | '+' :: digits => digits
    | digits => digits
  match Text.numeral? 10 digits with
  | some value => if value < 0x10000000000000000 then some value else none
  | none => none

def isOneOf (words : List String) (text : String) : Bool :=
  words.contains text

def logLevelOption : OptionSpec where
  name := "log-level"
  accepts := isOneOf ["off", "error", "warn", "info", "debug", "trace"]

def configOption : OptionSpec where
  name := "config"
  letter := some 'c'
  accepts := (!·.isEmpty)

def globalOptions : List OptionSpec := [logLevelOption, configOption]

def inputOptions : List OptionSpec :=
  [{ name := "input", letter := some 'i' }, { name := "input-file", accepts := (!·.isEmpty) }]

def anyWord : String → Bool := fun _ => true

def programSpec : CommandSpec where
  options := globalOptions
  nests := true
  versioned := true

def commandSpec? : String → Option CommandSpec
  | "run" => some {
      options := globalOptions ++ inputOptions ++
        [{ name := "dump", letter := some 'd', accepts := isOneOf ["state", "json"] }]
      words := [anyWord] }
  | "step" => some {
      options := globalOptions ++ inputOptions ++
        [{ name := "count", letter := some 'n', accepts := (count? · |>.isSome) }]
      words := [anyWord] }
  | "check" => some {
      options := globalOptions ++
        [{ name := "format", letter := some 'f', accepts := isOneOf ["text", "json"] }]
      words := [anyWord] }
  | "list" => some { options := globalOptions, words := [anyWord] }
  | "sample" => some { options := globalOptions, words := [isOneOf ["hello", "echo"]] }
  | _ => none

/-- The text to read; it cannot come from both places. -/
def inputSource? (gathered : Gathered) : Option InputSource :=
  match gathered.value? "input", gathered.value? "input-file" with
  | some _, some _ => none
  | none, some path => some (.file path)
  | some text, none => some (.text text)
  | none, none => some (.text "")

def action? (command : String) (gathered : Gathered) : Option Action :=
  match command, gathered.words with
  | "run", [file] => do
    let input ← inputSource? gathered
    let dump := (gathered.value? "dump").map fun word => if word == "json" then .json else .state
    pure (.run file input dump)
  | "step", [file] => do
    let input ← inputSource? gathered
    pure (.step file input (((gathered.value? "count").bind count?).getD 20))
  | "check", [file] =>
    some (.check file (if gathered.value? "format" == some "json" then .json else .text))
  | "list", [file] => some (.list file)
  | "sample", [] => some (.sample "hello")
  | "sample", [name] => some (.sample name)
  | _, _ => none

/-- A value with the place it was found in; a value from the environment yields to one from an
argument. -/
inductive Found where
  | missing
  | environment (value : String)
  | argument (value : String)

/-- The value of a global option among some arguments, or else in the environment. The environment
must hold a value that the option takes. -/
def Found.of? (option : OptionSpec) (setting : Option String) (gathered : Gathered) :
    Option Found :=
  match gathered.value? option.name, setting with
  | some value, _ => some (.argument value)
  | none, some value => if option.accepts value then some (.environment value) else none
  | none, none => some .missing

/-- The value that counts, of one before and one after the command. -/
def Found.choose : Found → Found → Option String
  | _, argument value => some value
  | argument value, _ => some value
  | _, environment value => some value
  | environment value, _ => some value
  | missing, missing => none

/-- The environment variables with a meaning. -/
structure Environment where
  config : Option String := none
  logLevel : Option String := none

/-- The invocation of global arguments, arguments of a command, and the command's action. -/
def invocation? (environment : Environment) (outer inner : Gathered) (action : Option Action) :
    Option Invocation := do
  let outerConfig ← Found.of? configOption environment.config outer
  let innerConfig ← Found.of? configOption environment.config inner
  let outerLevel ← Found.of? logLevelOption environment.logLevel outer
  let innerLevel ← Found.of? logLevelOption environment.logLevel inner
  pure ⟨outerConfig.choose innerConfig, outerLevel.choose innerLevel, action⟩

def Outcome.bind {α β : Type} : Outcome α → (α → Outcome β) → Outcome β
  | usage, _ => usage
  | help, _ => help
  | version, _ => version
  | ok value, next => next value

def Outcome.ofOption {α : Type} : Option α → Outcome α
  | some value => ok value
  | none => usage

/-- Help is asked for with no command, or with the name of one. -/
def helpRequest : List String → Outcome Invocation
  | [] => .help
  | [command] => if command == "help" || (commandSpec? command).isSome then .help else .usage
  | _ => .usage

def Invocation.ofArguments (environment : Environment) (arguments : List String) :
    Outcome Invocation :=
  (programSpec.read {} arguments).bind fun outer =>
    match outer.rest with
    | [] => Outcome.ofOption (invocation? environment outer outer none)
    | "help" :: rest => helpRequest rest
    | command :: rest =>
      match commandSpec? command with
      | none => .usage
      | some spec =>
        (spec.read {} rest).bind fun inner =>
          match action? command inner with
          | none => .usage
          | some action =>
            Outcome.ofOption (invocation? environment outer inner (some action))

end RegisterMachine.Command
