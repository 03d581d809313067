/-!
Arguments of a command. Arguments are options with values and words. An option is written
`--name value`, `--name=value`, `-n value`, `-nvalue` or `-n=value`; a value in an argument of its
own does not begin with a hyphen, unless it is one. `--` makes words of all that follows. No option
may be given twice.
-/

namespace RegisterMachine.Command

/-- How an argument looks. -/
inductive Shape where
  | terminator
  /-- `--name`, or `--name=value`. -/
  | long (name : List Char) (value : Option (List Char))
  /-- A hyphen, a letter and what follows. -/
  | short (letter : Char) (rest : List Char)
  | word
  deriving DecidableEq

def Shape.ofArgument : List Char → Shape
  | ['-', '-'] => terminator
  | '-' :: '-' :: text =>
    match text.dropWhile (· != '=') with
    | [] => long text none
    | _ :: value => long (text.takeWhile (· != '=')) (some value)
  | '-' :: letter :: rest => short letter rest
  | _ => word

/-- An option with a value. -/
structure OptionSpec where
  name : String
  letter : Option Char := none
  /-- Which values the option takes. -/
  accepts : String → Bool := fun _ => true

structure CommandSpec where
  options : List OptionSpec
  /-- Which words the command takes at each place. -/
  words : List (String → Bool) := []
  /-- Whether a word begins another command. -/
  nests : Bool := false
  /-- Whether the command can be asked for its version. -/
  versioned : Bool := false

/-- What reading arguments comes to. -/
inductive Outcome (α : Type) where
  /-- The arguments do not suit the command. -/
  | usage
  | help
  | version
  | ok (value : α)

inductive Meaning where
  | unknown
  | help
  | version
  | option (spec : OptionSpec) (value : Option String)

/-- The value attached to a letter, without an equals sign in front of it. -/
def attached : List Char → Option String
  | [] => none
  | '=' :: value => some (String.ofList value)
  | value => some (String.ofList value)

namespace CommandSpec

def meaning (spec : CommandSpec) : Shape → Meaning
  | .long name value =>
    match spec.options.find? (·.name.toList == name) with
    | some option => .option option (value.map String.ofList)
    | none =>
      if value.isSome then .unknown
      else if name == "help".toList then .help
      else if spec.versioned && name == "version".toList then .version
      else .unknown
  | .short letter rest =>
    match spec.options.find? (·.letter == some letter) with
    | some option => .option option (attached rest)
    | none =>
      if letter == 'h' then .help
      else if spec.versioned && letter == 'V' then .version
      else .unknown
  | _ => .unknown

end CommandSpec

/-- What has been read from arguments. -/
structure Gathered where
  /-- Values by the names of their options. -/
  values : List (String × String) := []
  words : List String := []
  /-- The arguments from the word on that begins another command. -/
  rest : List String := []

namespace Gathered

/-- Adds a value, if the option takes it and has none yet. -/
def addValue? (gathered : Gathered) (option : OptionSpec) (value : String) : Option Gathered :=
  if option.accepts value && (gathered.values.lookup option.name).isNone then
    some { gathered with values := gathered.values ++ [(option.name, value)] }
  else none

/-- Adds a word, if the command takes it at the next place. -/
def addWord? (gathered : Gathered) (spec : CommandSpec) (word : String) : Option Gathered :=
  match spec.words[gathered.words.length]? with
  | some accepts =>
    if accepts word then some { gathered with words := gathered.words ++ [word] } else none
  | none => none

def addWords (gathered : Gathered) (spec : CommandSpec) : List String → Outcome Gathered
  | [] => .ok gathered
  | word :: rest =>
    match gathered.addWord? spec word with
    | some gathered => gathered.addWords spec rest
    | none => .usage

def value? (gathered : Gathered) (name : String) : Option String :=
  gathered.values.lookup name

end Gathered

/-- Reads arguments from left to right. -/
def CommandSpec.read (spec : CommandSpec) (gathered : Gathered) :
    List String → Outcome Gathered
  | [] => .ok gathered
  | argument :: rest =>
    match Shape.ofArgument argument.toList with
    | .terminator => gathered.addWords spec rest
    | .word =>
      if spec.nests then .ok { gathered with rest := argument :: rest }
      else
        match gathered.addWord? spec argument with
        | some gathered => spec.read gathered rest
        | none => .usage
    | shape =>
      match spec.meaning shape with
      | .unknown => .usage
      | .help => .help
      | .version => .version
      | .option option (some value) =>
        match gathered.addValue? option value with
        | some gathered => spec.read gathered rest
        | none => .usage
      | .option option none =>
        match rest with
        | [] => .usage
        | value :: rest =>
          if Shape.ofArgument value.toList = .word then
            match gathered.addValue? option value with
            | some gathered => spec.read gathered rest
            | none => .usage
          else .usage

end RegisterMachine.Command
