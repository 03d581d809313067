import RegisterMachine.Machine.Engine

/-!
Traces. A trace records, step by step, which instruction was executed and what the registers and
flags were after it.
-/

namespace RegisterMachine

structure TraceRow where
  /-- The number of the step, counted from one. -/
  step : Nat
  pc : Nat
  /-- The source line, or zero if there is no instruction at that place. -/
  line : Nat
  text : String
  registers : List Int32
  flags : Flags
  deriving DecidableEq

structure Trace where
  rows : List TraceRow
  failure : Option Failure
  engine : Engine
  deriving DecidableEq

namespace Engine

def traceRow (before after : Engine) (step : Nat) : TraceRow where
  step := step
  pc := before.machine.pc
  line := (before.current?.map (·.line)).getD 0
  text := (before.current?.map (·.text)).getD ""
  registers := after.machine.registers.toList
  flags := after.machine.flags

/-- Steps at most `count` times, until the machine has halted or a step fails. The first step has
the given number. -/
def trace (engine : Engine) (step : Nat) : Nat → Trace
  | 0 => ⟨[], none, engine⟩
  | count + 1 =>
    if engine.machine.halted then ⟨[], none, engine⟩
    else
      match engine.step with
      | (.error failure, after) => ⟨[engine.traceRow after step], some failure, after⟩
      | (.ok _, after) =>
        let rest := after.trace (step + 1) count
        { rest with rows := engine.traceRow after step :: rest.rows }

end Engine

end RegisterMachine
