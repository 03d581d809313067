import RegisterMachine.FileTree
import RegisterMachine.Report.Basic
import RegisterMachine.Text.Quoted

/-!
Scripts. A script is a source text with the path it came from; its name is the last name of the
path.
-/

namespace RegisterMachine

structure Script where
  name : String
  path : String
  content : String
  deriving DecidableEq

structure MissingScript where
  path : String
  fault : ReadFault
  deriving DecidableEq

namespace Script

/-- The last name of a path, if it is not a step up. -/
def nameOf (path : String) : String :=
  match ((FileTree.names path).filter (!FileTree.isIdle ·)).getLast? with
  | some name => if name == ".." then "" else name
  | none => ""

def ofSource (name content : String) : Script :=
  ⟨name, name, content⟩

def load (read : String → Except ReadFault String) (path : String) : Except MissingScript Script :=
  match read path with
  | .ok content => .ok ⟨nameOf path, path, content⟩
  | .error fault => .error ⟨path, fault⟩

def text (script : Script) : String :=
  "Script: " ++ script.name ++ " at " ++ Text.quoted script.path

def assemble (script : Script) : Except DuplicateLabel Program :=
  Program.assemble script.name script.content

end Script

namespace MissingScript

def message (missing : MissingScript) : String :=
  "Missing script at " ++ Text.quoted missing.path ++ ": " ++ missing.fault.message

def diagnostic (missing : MissingScript) : Diagnostic :=
  ⟨.error, missing.message, "tinyvm.script", none, none⟩

def report (missing : MissingScript) : Report :=
  Report.ofDiagnostic missing.diagnostic Report.ioCode
    (some "check the path and file permissions")

end MissingScript

end RegisterMachine
