import RegisterMachine.Failure

/-!
Diagnostics. What any failure has to say for itself: how bad it is, its message, which part raised
it, where, and about which piece of source. Two one-line forms of it.
-/

namespace RegisterMachine

inductive Severity where
  | fatal
  | error
  | warning
  | info
  deriving DecidableEq

namespace Severity

/-- The word in a report. -/
def text : Severity → String
  | fatal => "FATAL"
  | error => "ERROR"
  | warning => "WARNING"
  | info => "INFO"

/-- The word in a one-line form. -/
def levelText : Severity → String
  | fatal => "CRITICAL"
  | severity => severity.text

/-- The word in JSON. -/
def name : Severity → String
  | fatal => "Fatal"
  | error => "Error"
  | warning => "Warning"
  | info => "Info"

end Severity

structure Diagnostic where
  severity : Severity
  message : String
  /-- The part that raised it. -/
  issuer : String
  location : Option Location
  token : Option String
  deriving DecidableEq

namespace Diagnostic

/-- The form without issuer and token. -/
def summary (diagnostic : Diagnostic) : String :=
  "TINYVM | " ++ diagnostic.severity.levelText ++ " | " ++
    (diagnostic.location.map Location.text).getD "unknown location" ++ " | " ++
    diagnostic.message

/-- The form with everything. -/
def line (diagnostic : Diagnostic) : String :=
  "TINYVM | " ++ diagnostic.severity.levelText ++ " | " ++
    (diagnostic.location.map Location.text).getD "unknown" ++ " | " ++
    diagnostic.issuer ++ " | " ++
    (diagnostic.token.map fun token => "'" ++ token ++ "'").getD "token:none" ++ " | " ++
    diagnostic.message

end Diagnostic

namespace Failure

def kind : Failure → String
  | duplicateLabel _ => "parse"
  | badOperand _ _ _ _ => "operand"
  | unknownLabel _ _ _ => "resolution"
  | cycleLimit _ _ => "resource-limit"
  | _ => "execution"

def issuer : Failure → String
  | duplicateLabel _ => "tinyvm.asm"
  | badOperand _ _ _ _ => "tinyvm.operand"
  | unknownLabel _ _ _ => "tinyvm.resolve"
  | _ => "tinyvm.exec"

/-- Running out of cycles is worse than the rest. -/
def severity : Failure → Severity
  | cycleLimit _ _ => .fatal
  | _ => .error

def diagnostic (failure : Failure) : Diagnostic :=
  ⟨failure.severity, failure.message, failure.issuer, failure.location?, failure.token?⟩

end Failure

end RegisterMachine
