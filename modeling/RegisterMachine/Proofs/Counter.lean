import RegisterMachine.Proofs.Aftermath

/-!
Counters of 64 bits. Cycles and steps are counted without a bound here; a counter of 64 bits goes
from its largest value to zero. Under every cap below the largest count the two count alike, and a
run ends as it would without a bound. The largest count is a cap that no counter of 64 bits can
exceed: where the cycle limit should end a run under it, the run goes on forever.
-/

namespace RegisterMachine

/-- The largest count that 64 bits hold. -/
def maxCount : Nat := 0xFFFFFFFFFFFFFFFF

def nextCount (count : Nat) : Nat :=
  (UInt64.ofNat count + 1).toNat

theorem nextCount_le (count : Nat) : nextCount count ≤ maxCount :=
  Nat.le_of_lt_succ (UInt64.toNat_lt (UInt64.ofNat count + 1))

theorem nextCount_of_lt {count : Nat} (h : count < maxCount) : nextCount count = count + 1 := by
  have hmax : maxCount = 18446744073709551615 := rfl
  rw [nextCount, UInt64.toNat_add, UInt64.toNat_ofNat', UInt64.toNat_one]
  omega

namespace Engine

variable {engine after : Engine} {config : Config} {next : Nat → Nat}
variable {instruction : Instruction} {opcode : Opcode} {operation : Operation} {flow : Flow}
variable {machine : Machine} {channel : Channel}

/-- A run is over when a step has failed, the machine has halted or more steps than the cap have
been counted. -/
def isOver (outcome : Except Failure RunStatus × Engine) : Bool :=
  match outcome.1 with
  | .error _ => true
  | .ok status => status.halted || decide (outcome.2.config.maxCycles < status.steps)

/-- What a run with counters of 64 bits comes to, if it is over after so many rounds. -/
def wordRun (engine : Engine) (rounds : Nat) : Option (Except Failure RunStatus × Engine) :=
  (some (engine.runFromWith nextCount 0 rounds)).filter isOver

/-- A step counts a cycle that 64 bits do not hold. -/
def Overflows (engine : Engine) : Prop :=
  engine.machine.cycles ≤ maxCount ∧ maxCount < engine.step.2.machine.cycles

theorem Performs.cycles_step
    (h : engine.Performs instruction opcode operation flow machine channel) :
    engine.step.2.machine.cycles = engine.machine.cycles + 1 := by
  rw [h.step_eq]
  split
  · exact congrArg (· + 1) h.change.cycles
  · exact (follow_cycles _ flow).trans (congrArg (· + 1) h.change.cycles)

theorem stepWith_of_fits (hle : engine.machine.cycles ≤ maxCount) (h : ¬ engine.Overflows) :
    engine.stepWith nextCount = engine.step := by
  apply stepWith_eq_step
  intro instruction opcode operation flow machine channel hperforms
  have hfits : engine.step.2.machine.cycles ≤ maxCount := by
    apply Nat.le_of_not_lt
    intro hlt
    exact h ⟨hle, hlt⟩
  rw [hperforms.cycles_step, ← hperforms.change.cycles] at hfits
  exact nextCount_of_lt hfits

/-- Only where the largest cap is exceeded is a cycle counted beyond 64 bits. -/
theorem Sound.overflows_iff (h : engine.Sound) (hcap : engine.config.maxCycles ≤ maxCount) :
    engine.Overflows ↔ engine.config.maxCycles = maxCount ∧
      ∃ location, engine.step.1 = .error (.cycleLimit maxCount location) := by
  constructor
  · rintro ⟨hle, hlt⟩
    have hrule := engine.stepRule
    generalize hresult : engine.step.1 = result at hrule ⊢
    generalize hafter : engine.step.2 = after at hrule hlt
    cases hrule with
    | idle | noProgram | pastEnd | undecodable | unresolved | stray =>
      exact absurd hlt (Nat.not_lt.mpr hle)
    | capped hperforms hover =>
      have hcycles := h.cycles_le_of_running hperforms.running
      rw [← hafter, hperforms.cycles_step] at hlt
      have hmax : engine.config.maxCycles = maxCount := by omega
      rw [hmax]
      exact ⟨rfl, _, rfl⟩
    | performed hperforms hunder =>
      rw [← hafter, hperforms.cycles_step] at hlt
      rw [hperforms.change.cycles] at hunder
      omega
  · rintro ⟨hmax, location, hstep⟩
    obtain ⟨_, _, _, _, _, _, hperforms, hover, _⟩ :=
      (stepRule_of_error hstep).performs_of_cycleLimit
    have hcycles := h.cycles_le_of_running hperforms.running
    rw [hperforms.change.cycles] at hover
    refine ⟨by omega, ?_⟩
    rw [hperforms.cycles_step]
    omega

theorem isOver_run (engine : Engine) : isOver engine.run = true := by
  cases hrun : engine.run with
  | mk result after =>
    cases result with
    | ok status =>
      obtain ⟨_, _, rfl⟩ := run_eq_ok_cases hrun
      rfl
    | error failure => rfl

/-- Counters of 64 bits are enough for a run that counts no cycle beyond them. -/
theorem Sound.runFromWith_eq_run {rounds : Nat} (h : engine.Sound)
    (hcap : engine.config.maxCycles ≤ maxCount)
    (hfits : ∀ k < engine.calls, ¬ (engine.stepped k).Overflows) (hrounds : engine.calls ≤ rounds) :
    engine.runFromWith nextCount 0 rounds = engine.run := by
  have hnext : ∀ count < engine.config.maxCycles, nextCount count = count + 1 :=
    fun count hcount => nextCount_of_lt (Nat.lt_of_lt_of_le hcount hcap)
  cases hrun : engine.run with
  | mk result after =>
    have hafter : engine.stepped engine.calls = after := by simp [hrun]
    cases result with
    | ok status =>
      obtain ⟨hproceeds, hhalted, rfl⟩ := run_eq_ok_cases hrun
      rw [← hafter] at hhalted
      rw [hproceeds.runFromWith_eq_ok hnext hhalted hrounds, hafter]
    | error failure =>
      obtain ⟨count, hcalls, hproceeds, hrunning, hfailure⟩ := run_eq_error_cases hrun
      have hle : (engine.stepped count).machine.cycles ≤ maxCount := by
        have hcycles := (stepped_sound h count).cycles_le_of_running hrunning
        exact Nat.le_trans (by simpa using hcycles) hcap
      have hword : (engine.stepped count).stepWith nextCount = (.error failure, after) := by
        rw [stepWith_of_fits hle (hfits count (by omega)), ← hafter, hcalls, stepped_succ,
          ← hfailure]
      exact hproceeds.runFromWith_eq_error hnext hrunning hword (by omega)

theorem Sound.wordRun_eq {rounds : Nat} (h : engine.Sound)
    (hcap : engine.config.maxCycles ≤ maxCount)
    (hfits : ∀ k < engine.calls, ¬ (engine.stepped k).Overflows) (hrounds : engine.calls ≤ rounds) :
    engine.wordRun rounds = some engine.run := by
  rw [wordRun, h.runFromWith_eq_run hcap hfits hrounds]
  exact Option.filter_some_pos (isOver_run engine)

/-- All calls of a run succeed but for the last, which may fail. -/
theorem exists_ok_of_lt_calls {k : Nat} (h : k + 1 < engine.calls) :
    ∃ halted, (engine.stepped k).step.1 = .ok halted := by
  cases hrun : engine.run with
  | mk result after =>
    cases result with
    | ok status => exact ((run_eq_ok_cases hrun).1 k (by omega)).2
    | error failure =>
      obtain ⟨count, hcalls, hproceeds, _⟩ := run_eq_error_cases hrun
      exact (hproceeds k (by omega)).2

/-- A run counts a cycle beyond 64 bits exactly if it ends by the cycle limit under the largest
cap. -/
theorem Sound.run_overflows_iff (h : engine.Sound) (hcap : engine.config.maxCycles ≤ maxCount) :
    (∃ k < engine.calls, (engine.stepped k).Overflows) ↔ engine.config.maxCycles = maxCount ∧
      ∃ location, engine.run.1 = .error (.cycleLimit maxCount location) := by
  have hstepped : ∀ k, (engine.stepped k).Overflows ↔ engine.config.maxCycles = maxCount ∧
      ∃ location, (engine.stepped k).step.1 = .error (.cycleLimit maxCount location) := by
    intro k
    have hiff := (stepped_sound h k).overflows_iff (stepped_config engine k ▸ hcap)
    rwa [stepped_config] at hiff
  constructor
  · rintro ⟨k, hk, hover⟩
    obtain ⟨hmax, location, hstep⟩ := (hstepped k).mp hover
    have hok : ∀ j < k, ∃ halted, (engine.stepped j).step.1 = .ok halted :=
      fun j hj => exists_ok_of_lt_calls (by omega)
    exact ⟨hmax, location, run_eq_error_iff.mpr ⟨k, hok, hstep⟩⟩
  · rintro ⟨hmax, location, hrun⟩
    obtain ⟨count, hcalls, _, _, hfailure⟩ := run_eq_error_cases (by rw [← hrun])
    exact ⟨count, by omega, (hstepped count).mpr ⟨hmax, location, hfailure⟩⟩

/-- A cycle is counted beyond 64 bits exactly where the largest cap is exceeded. Up to there the
steps of a run fit too, and the run ends as it does without a bound on the counters, by a halt or by
a failure. -/
theorem counters_fit_unless_largest_cap (h : Reachable config engine)
    (hcap : config.maxCycles ≤ maxCount) :
    (engine.Overflows ↔ config.maxCycles = maxCount ∧
      ∃ location, engine.step.1 = .error (.cycleLimit maxCount location)) ∧
    ((∃ k < engine.calls, (engine.stepped k).Overflows) ↔ config.maxCycles = maxCount ∧
      ∃ location, engine.run.1 = .error (.cycleLimit maxCount location)) ∧
    (∀ count, engine.Proceeds count → count ≤ maxCount) ∧
    ((∀ k < engine.calls, ¬ (engine.stepped k).Overflows) →
      (∀ rounds, engine.calls ≤ rounds → engine.wordRun rounds = some engine.run) ∧
      ((∃ status, engine.run.1 = .ok status ∧ status.halted = true) ∨
        ∃ failure, engine.run.1 = .error failure)) := by
  obtain rfl := h.config_eq
  refine ⟨h.sound.overflows_iff hcap, h.sound.run_overflows_iff hcap, ?_, ?_⟩
  · intro count hproceeds
    exact Nat.le_trans hproceeds.le_maxCycles hcap
  · intro hfits
    refine ⟨fun rounds hrounds => h.sound.wordRun_eq hcap hfits hrounds, ?_⟩
    cases hrun : engine.run.1 with
    | ok status =>
      obtain ⟨_, _, rfl⟩ := run_eq_ok_cases (by rw [← hrun])
      exact .inl ⟨_, rfl, rfl⟩
    | error failure => exact .inr ⟨failure, rfl⟩

/-- A loop under a cap of three cycles makes at most four rounds. -/
theorem counters_fit_under_small_cap :
    ((new { maxCycles := 3 }).serveAll [.load "loop" "a:\nJMP a\n"]).wordRun 4 =
      some ((new { maxCycles := 3 }).serveAll [.load "loop" "a:\nJMP a\n"]).run := by
  have hreachable : Reachable { maxCycles := 3 }
      ((new { maxCycles := 3 }).serveAll [.load "loop" "a:\nJMP a\n"]) := ⟨_, _, rfl, rfl⟩
  obtain ⟨_, hover, _, hword⟩ := counters_fit_unless_largest_cap hreachable (by decide)
  have hfits : ∀ k < ((new { maxCycles := 3 }).serveAll [.load "loop" "a:\nJMP a\n"]).calls,
      ¬ (((new { maxCycles := 3 }).serveAll
        [.load "loop" "a:\nJMP a\n"]).stepped k).Overflows := by
    intro k hk hoverflows
    have hmax : (3 : Nat) = maxCount := (hover.mp ⟨k, hk, hoverflows⟩).1
    cases hmax
  exact (hword hfits).1 4 (by decide)

/-- A loop of one instruction under a cap, after some cycles. -/
def spinning (cap cycles : Nat) : Engine :=
  let loaded := ((new { maxCycles := cap }).load "loop" "a:\nJMP a\n").2
  { loaded with machine := { loaded.machine with cycles := cycles } }

section
variable {cap cycles : Nat}

theorem performs_spinning : (spinning cap cycles).Performs ⟨"JMP", ["a"], 2, "JMP a"⟩ .jmp
    (.jump .always "a") (.jump 0) (spinning cap cycles).machine (spinning cap cycles).channel :=
  ⟨⟨rfl, rfl, rfl⟩, rfl, rfl⟩

theorem stepWith_spinning (h : next cycles ≤ cap) :
    (spinning cap cycles).stepWith next = (.ok false, spinning cap (next cycles)) := by
  rw [performs_spinning.stepWith_eq]
  exact if_neg (Nat.not_lt.mpr h)

theorem step_spinning (h : cycles < cap) :
    (spinning cap cycles).step = (.ok false, spinning cap (cycles + 1)) := by
  rw [performs_spinning.step_eq]
  exact if_neg (Nat.not_lt.mpr h)

theorem stepped_spinning {count : Nat} (h : cycles + count ≤ cap) :
    (spinning cap cycles).stepped count = spinning cap (cycles + count) := by
  induction count with
  | zero => rfl
  | succ count ih =>
    rw [stepped_succ, ih (by omega), step_spinning (by omega)]
    rfl

theorem lt_calls_spinning : cap < (spinning cap 0).calls := by
  apply Nat.lt_of_not_le
  intro hle
  cases hrun : (spinning cap 0).run with
  | mk result after =>
    cases result with
    | ok status =>
      have hhalted := (run_eq_ok_cases hrun).2.1
      have hafter : (spinning cap 0).stepped (spinning cap 0).calls = after := by
        simp [hrun]
      rw [← hafter, stepped_spinning (by omega)] at hhalted
      cases hhalted
    | error failure =>
      obtain ⟨count, hcalls, _, _, hfailure⟩ := run_eq_error_cases hrun
      rw [stepped_spinning (by omega), step_spinning (by omega)] at hfailure
      cases hfailure

/-- A loop under the largest cap still runs after any number of rounds, and the count of its steps
does not exceed the cap. -/
theorem runFromWith_spinning {steps : Nat} (hsteps : steps ≤ maxCount) (cycles rounds : Nat) :
    ∃ count last, count ≤ maxCount ∧
      (spinning maxCount cycles).runFromWith nextCount steps rounds =
        (.ok ⟨false, count⟩, spinning maxCount last) := by
  induction rounds generalizing cycles steps with
  | zero => exact ⟨steps, cycles, hsteps, rfl⟩
  | succ rounds ih =>
    have hrunning : (spinning maxCount cycles).machine.halted = false := rfl
    have hconfig : (spinning maxCount (nextCount cycles)).config.maxCycles = maxCount := rfl
    rw [runFromWith, stepWith_spinning (nextCount_le cycles)]
    simp only [hrunning, Bool.false_eq_true, ite_false, hconfig,
      Nat.not_lt.mpr (nextCount_le steps)]
    exact ih (nextCount_le steps) (nextCount cycles)

/-- No number of rounds is enough for a loop under the largest cap. -/
theorem wordRun_spinning (cycles rounds : Nat) :
    (spinning maxCount cycles).wordRun rounds = none := by
  obtain ⟨count, last, hcount, hrun⟩ := runFromWith_spinning (Nat.zero_le _) cycles rounds
  rw [wordRun, hrun, Option.filter_some_neg]
  have hcap : (spinning maxCount last).config.maxCycles = maxCount := rfl
  simp [isOver, hcap, hcount]

theorem overflows_spinning : (spinning maxCount maxCount).Overflows := by
  refine ⟨Nat.le_refl _, ?_⟩
  rw [performs_spinning.cycles_step]
  exact Nat.lt_succ_self _

end

/-- The largest count is a valid cap, but a loop under it counts beyond 64 bits, and with counters
of 64 bits it comes to no end. -/
theorem endless_under_largest_cap :
    ({ maxCycles := maxCount } : Config).validate = .ok () ∧
    (∃ k < ((new { maxCycles := maxCount }).serveAll [.load "loop" "a:\nJMP a\n"]).calls,
      (((new { maxCycles := maxCount }).serveAll
        [.load "loop" "a:\nJMP a\n"]).stepped k).Overflows) ∧
    ∀ rounds, ((new { maxCycles := maxCount }).serveAll
      [.load "loop" "a:\nJMP a\n"]).wordRun rounds = none := by
  have hloaded : (new { maxCycles := maxCount }).serveAll [.load "loop" "a:\nJMP a\n"] =
      spinning maxCount 0 := rfl
  rw [hloaded]
  refine ⟨rfl, ⟨maxCount, lt_calls_spinning, ?_⟩, wordRun_spinning 0⟩
  rw [stepped_spinning (by omega), Nat.zero_add]
  exact overflows_spinning

end Engine

end RegisterMachine
