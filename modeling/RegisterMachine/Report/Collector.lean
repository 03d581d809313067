import RegisterMachine.Report.Basic

/-!
Collections of reports. A collector keeps the reports it is given in order, but of those with the
same message and code only the first.
-/

namespace RegisterMachine

/-- Reports without repeats. -/
structure Collector where
  reports : List Report := []
  deriving DecidableEq

namespace Collector

def same (a b : Report) : Bool :=
  a.message == b.message && a.code == b.code

/-- Adds a report, unless the same is there. -/
def push (collector : Collector) (report : Report) : Collector :=
  if collector.reports.any (same report) then collector
  else ⟨collector.reports ++ [report]⟩

def extend (collector : Collector) (reports : List Report) : Collector :=
  reports.foldl push collector

def count (collector : Collector) (severity : Severity) : Nat :=
  collector.reports.countP (·.severity == severity)

def isEmpty (collector : Collector) : Bool :=
  collector.reports.isEmpty

/-- Whether a report is an error or worse. -/
def hasErrors (collector : Collector) : Bool :=
  collector.reports.any fun report => report.severity == .error || report.severity == .fatal

/-- 2 if there is a fatal report, else 1 if there is an error, else 0. -/
def exitCode (collector : Collector) : Nat :=
  if 0 < collector.count .fatal then 2
  else if 0 < collector.count .error then 1
  else 0

def render (collector : Collector) (coloured : Bool) (source : String) : String :=
  String.join (collector.reports.map (·.render coloured source))

def toJson (collector : Collector) : Json :=
  .array (collector.reports.map Report.toJson)

end Collector

end RegisterMachine
