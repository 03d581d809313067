import RegisterMachine.Config.Basic
import RegisterMachine.FileTree
import RegisterMachine.Json.Document

/-!
Configurations as JSON documents. A configuration document is an object with the members
`register_count`, `memory_size` and `max_cycles`, or an array of their values in this order. What
is left out keeps its default. Other members are ignored; one of the three may not stand twice.
Values are plain unsigned integers of at most 64 bits.
-/

namespace RegisterMachine.Config

inductive ReadError where
  /-- The text is no JSON document, or not of the right shape. -/
  | malformed
  /-- The configuration does not pass validation. -/
  | invalid (fault : Fault)
  deriving DecidableEq

/-- The members of a document that have a meaning. -/
inductive Member where
  | registerCount
  | memorySize
  | maxCycles
  deriving DecidableEq

/-- Every member, in the order of an array document. -/
def Member.all : List Member := [.registerCount, .memorySize, .maxCycles]

def Member.key : Member → String
  | registerCount => "register_count"
  | memorySize => "memory_size"
  | maxCycles => "max_cycles"

def Member.ofKey? (key : List Char) : Option Member :=
  all.find? (·.key.toList == key)

def set (config : Config) : Member → Nat → Config
  | .registerCount, value => { config with registerCount := value }
  | .memorySize, value => { config with memorySize := value }
  | .maxCycles, value => { config with maxCycles := value }

/-- An unsigned integer of at most 64 bits. -/
def word? : Json.Document → Option Nat
  | .number text =>
    match Text.numeral? 10 text with
    | some value => if value < 0x10000000000000000 then some value else none
    | none => none
  | _ => none

/-- Reads members into a configuration; `seen` have been read before. -/
def readMembers (config : Config) (seen : List Member) :
    List (List Char × Json.Document) → Option Config
  | [] => some config
  | (key, value) :: rest =>
    match Json.decodeString? key with
    | none => none
    | some key =>
      match Member.ofKey? key with
      | none => readMembers config seen rest
      | some member =>
        if seen.contains member then none
        else
          match word? value with
          | none => none
          | some value => readMembers (config.set member value) (member :: seen) rest

/-- Reads items into a configuration, each at the next member. -/
def readItems (config : Config) : List Member → List Json.Document → Option Config
  | _, [] => some config
  | [], _ :: _ => none
  | member :: members, item :: items =>
    match word? item with
    | none => none
    | some value => readItems (config.set member value) members items

/-- The configuration of a document, before validation. -/
def ofDocument? : Json.Document → Option Config
  | .object members => readMembers {} [] members
  | .array items => readItems {} Member.all items
  | _ => none

def ofText (text : String) : Except ReadError Config :=
  match (Json.Document.ofText? text.toList).bind ofDocument? with
  | none => .error .malformed
  | some config =>
    match config.validate with
    | .ok () => .ok config
    | .error fault => .error (.invalid fault)

inductive LoadError where
  | unreadable (fault : ReadFault)
  | unusable (error : ReadError)
  deriving DecidableEq

/-- The wording of an error. Why a text is malformed is not told: what follows `parse config: ` is
in this library's own words. -/
def LoadError.message : LoadError → String
  | unreadable fault => "read config: " ++ fault.message
  | unusable .malformed => "parse config: not a configuration document"
  | unusable (.invalid fault) => fault.message

def load (read : String → Except ReadFault String) (path : String) : Except LoadError Config :=
  match read path with
  | .error fault => .error (.unreadable fault)
  | .ok text =>
    match ofText text with
    | .ok config => .ok config
    | .error error => .error (.unusable error)

end RegisterMachine.Config
