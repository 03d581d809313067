import RegisterMachine.Proofs.History

/-!
A run is a row of steps. Every successful step of a running machine spends one cycle and stays under
the cap, so the fuel of a run outlasts the run: it ends with a halt or with the first failure of a
step. Steps taken before a run change nothing but the count of its own steps.
-/

namespace RegisterMachine.Engine

variable {engine after : Engine} {config : Config} {count : Nat}

theorem step_of_halted (h : engine.machine.halted = true) : engine.step = (.ok true, engine) := by
  simp only [step, stepWith, h, ite_true]

theorem stepped_of_halted (h : engine.machine.halted = true) (count : Nat) :
    engine.stepped count = engine := by
  induction count with
  | zero => rfl
  | succ count ih => rw [stepped, step_of_halted h, ih]

@[simp] theorem stepped_config (engine : Engine) (count : Nat) :
    (engine.stepped count).config = engine.config :=
  stepped_induction (P := fun after => after.config = engine.config)
    (fun after h => after.stepRule.config.trans h) rfl count

theorem Proceeds.cycles_succ {k : Nat} (h : engine.Proceeds count) (hk : k < count) :
    (engine.stepped (k + 1)).machine.cycles = (engine.stepped k).machine.cycles + 1 ∧
      (engine.stepped (k + 1)).machine.cycles ≤ engine.config.maxCycles := by
  obtain ⟨hrunning, halted, hok⟩ := h k hk
  rw [stepped_succ, ← stepped_config engine k]
  exact (stepRule_of_step (by rw [← hok])).cycles_of_ok hrunning

theorem Proceeds.cycles_eq (h : engine.Proceeds count) :
    (engine.stepped count).machine.cycles = engine.machine.cycles + count := by
  induction count with
  | zero => rfl
  | succ count ih =>
    rw [(h.cycles_succ (Nat.lt_succ_self count)).1, ih (h.mono (Nat.le_succ count)), Nat.add_assoc]

theorem Proceeds.cycles_le (h : engine.Proceeds count) (hpos : 0 < count) :
    engine.machine.cycles + count ≤ engine.config.maxCycles := by
  obtain ⟨k, rfl⟩ := Nat.exists_eq_succ_of_ne_zero (Nat.ne_of_gt hpos)
  rw [← h.cycles_eq]
  exact (h.cycles_succ (Nat.lt_succ_self k)).2

theorem Proceeds.le_maxCycles (h : engine.Proceeds count) : count ≤ engine.config.maxCycles := by
  cases count with
  | zero => exact Nat.zero_le _
  | succ count =>
    have hcycles := h.cycles_le (Nat.succ_pos count)
    omega

theorem proceeds_of_ok {failure : Failure}
    (hok : ∀ k < count, ∃ halted, (engine.stepped k).step.1 = .ok halted)
    (hfailure : (engine.stepped count).step.1 = .error failure) :
    engine.Proceeds count ∧ (engine.stepped count).machine.halted = false := by
  -- Had the machine halted earlier, the last step would find it halted and succeed.
  have hrunning : ∀ k ≤ count, (engine.stepped k).machine.halted = false := by
    intro k hk
    cases hhalted : (engine.stepped k).machine.halted with
    | false => rfl
    | true =>
      obtain ⟨rest, rfl⟩ := Nat.exists_eq_add_of_le hk
      rw [stepped_add, stepped_of_halted hhalted, step_of_halted hhalted] at hfailure
      cases hfailure
  exact ⟨fun k hk => ⟨hrunning k (Nat.le_of_lt hk), hok k hk⟩, hrunning count (Nat.le_refl _)⟩

/-- The fuel of a run never gives out: a run that succeeds has halted. -/
theorem run_eq_ok_cases {status : RunStatus} (h : engine.run = (.ok status, after)) :
    engine.Proceeds engine.calls ∧ after.machine.halted = true ∧
      status = ⟨true, engine.calls⟩ := by
  have hrule := runRule_of_run h
  generalize engine.calls = calls at hrule
  cases hrule with
  | halted _ hproceeds hhalted => exact ⟨hproceeds, hhalted, by rw [Nat.zero_add]⟩
  | exhausted hproceeds _ =>
    have hcap := hproceeds.le_maxCycles
    omega

/-- Fuel beyond what a run has is of no use. -/
theorem runFrom_eq_run {fuel : Nat} (h : engine.config.maxCycles + 1 ≤ fuel) :
    engine.runFrom 0 fuel = engine.run := by
  cases hrun : engine.run with
  | mk result after =>
    have hafter : engine.stepped engine.calls = after := by simp [hrun]
    cases result with
    | ok status =>
      obtain ⟨hproceeds, hhalted, rfl⟩ := run_eq_ok_cases hrun
      have hle := hproceeds.le_maxCycles
      rw [hproceeds.runFrom_eq_ok (by rw [hafter]; exact hhalted) (by omega), hafter]
    | error failure =>
      obtain ⟨count, hcalls, hproceeds, hrunning, hfailure⟩ := run_eq_error_cases hrun
      have hle := hproceeds.le_maxCycles
      rw [hproceeds.runFrom_eq_error hrunning hfailure (by omega), ← hcalls, hafter]

theorem RunRule.calls_le {steps fuel calls : Nat} {result : Except Failure RunStatus}
    (h : engine.RunRule steps fuel calls result after) :
    calls ≤ engine.config.maxCycles + 1 := by
  cases h with
  | halted _ hproceeds | exhausted hproceeds => exact Nat.le_succ_of_le hproceeds.le_maxCycles
  | failed _ hproceeds => exact Nat.succ_le_succ hproceeds.le_maxCycles

theorem callsFrom_eq_min (engine : Engine) (fuel : Nat) :
    engine.callsFrom fuel = min fuel engine.calls := by
  by_cases hle : fuel ≤ engine.config.maxCycles + 1
  · exact engine.callsFrom_eq_min_of_le hle
  · have hcalls : engine.calls = min (engine.config.maxCycles + 1) (engine.callsFrom fuel) :=
      engine.callsFrom_eq_min_of_le (Nat.le_of_not_le hle)
    have hbound := (engine.runRule (Nat.zero_le _) fuel).calls_le
    omega

theorem calls_of_halted (h : engine.machine.halted = true) : engine.calls = 0 := by
  simp only [calls, callsFrom, h, ite_true]

theorem Sound.calls_add_cycles_le (h : engine.Sound) :
    engine.calls + engine.machine.cycles ≤ engine.config.maxCycles + 1 := by
  cases hhalted : engine.machine.halted with
  | true =>
    rw [calls_of_halted hhalted, Nat.zero_add]
    exact h.cycles_le
  | false =>
    have hcycles := h.cycles_le_of_running hhalted
    have hbound : ∀ count, engine.Proceeds count →
        engine.machine.cycles + count ≤ engine.config.maxCycles := by
      intro count hproceeds
      rcases Nat.eq_zero_or_pos count with rfl | hpos
      · exact hcycles
      · exact hproceeds.cycles_le hpos
    cases hrun : engine.run with
    | mk result after =>
      cases result with
      | ok status =>
        have hle := hbound _ (run_eq_ok_cases hrun).1
        omega
      | error failure =>
        obtain ⟨count, hcalls, hproceeds, _⟩ := run_eq_error_cases hrun
        have hle := hbound count hproceeds
        omega

/-- A run fails exactly with the first failure that steps in a row meet. -/
theorem run_eq_error_iff {failure : Failure} : engine.run.1 = .error failure ↔
    ∃ count, (∀ k < count, ∃ halted, (engine.stepped k).step.1 = .ok halted) ∧
      (engine.stepped count).step.1 = .error failure := by
  constructor
  · intro h
    obtain ⟨count, _, hproceeds, _, hfailure⟩ := run_eq_error_cases (by rw [← h])
    exact ⟨count, fun k hk => (hproceeds k hk).2, hfailure⟩
  · rintro ⟨count, hok, hfailure⟩
    obtain ⟨hproceeds, hrunning⟩ := proceeds_of_ok hok hfailure
    rw [hproceeds.run_eq_error hrunning hfailure (Nat.lt_succ_of_le hproceeds.le_maxCycles)]

/-- A run after some steps is the rest of the run. -/
theorem Proceeds.run_eq (h : engine.Proceeds count) :
    engine.run = ((engine.stepped count).run.1.map fun status =>
      ⟨status.halted, count + status.steps⟩, (engine.stepped count).run.2) := by
  have hbound : ∀ more, (engine.stepped count).Proceeds more →
      count + more ≤ engine.config.maxCycles :=
    fun more hmore => (h.add hmore).le_maxCycles
  cases hrun : (engine.stepped count).run with
  | mk result after =>
    have hafter : (engine.stepped count).stepped (engine.stepped count).calls = after := by
      simp [hrun]
    cases result with
    | ok status =>
      obtain ⟨hproceeds, hhalted, rfl⟩ := run_eq_ok_cases hrun
      rw [← hafter, ← stepped_add] at hhalted
      rw [(h.add hproceeds).run_eq_ok hhalted (Nat.le_succ_of_le (hbound _ hproceeds)),
        stepped_add, hafter]
      rfl
    | error failure =>
      obtain ⟨more, hcalls, hproceeds, hrunning, hfailure⟩ := run_eq_error_cases hrun
      rw [← stepped_add] at hrunning hfailure
      rw [(h.add hproceeds).run_eq_error hrunning hfailure
        (Nat.lt_succ_of_le (hbound _ hproceeds)), Nat.add_assoc, stepped_add, ← hcalls, hafter]
      rfl

/-- A run calls for at most one step more than the cap leaves over, ends with a halt after as many
steps as it spent cycles, or with the first failure of a step, and can be broken off and taken up
again after any steps that succeed. -/
theorem run_eq_iterated_step (h : Reachable config engine) :
    (engine.calls + engine.machine.cycles ≤ config.maxCycles + 1 ∧
      (engine.machine.halted = true → engine.calls = 0) ∧
      engine.run.2 = engine.stepped engine.calls) ∧
    (∀ status, engine.run.1 = .ok status →
      status.halted = true ∧ engine.run.2.machine.halted = true ∧
      status.steps = engine.calls ∧
      engine.run.2.machine.cycles = engine.machine.cycles + status.steps ∧
      status.steps ≤ config.maxCycles) ∧
    (∀ failure, engine.run.1 = .error failure ↔
      ∃ count, (∀ k < count, ∃ halted, (engine.stepped k).step.1 = .ok halted) ∧
        (engine.stepped count).step.1 = .error failure) ∧
    ∀ count, engine.Proceeds count →
      engine.run = ((engine.stepped count).run.1.map fun status =>
        ⟨status.halted, count + status.steps⟩, (engine.stepped count).run.2) := by
  obtain rfl := h.config_eq
  refine ⟨⟨h.sound.calls_add_cycles_le, calls_of_halted, (stepped_calls engine).symm⟩, ?_,
    fun failure => run_eq_error_iff, fun count hproceeds => hproceeds.run_eq⟩
  intro status hok
  obtain ⟨hproceeds, hhalted, rfl⟩ := run_eq_ok_cases (by rw [← hok])
  refine ⟨rfl, hhalted, rfl, ?_, hproceeds.le_maxCycles⟩
  rw [← stepped_calls, hproceeds.cycles_eq]

/-- A loop without an end, of which one step was made, calls for as many steps as it may. -/
theorem run_of_endless_loop :
    ((new { maxCycles := 3 }).serveAll [.load "loop" "a:\nJMP a\n", .step]).calls +
        ((new { maxCycles := 3 }).serveAll [.load "loop" "a:\nJMP a\n", .step]).machine.cycles ≤ 4 ∧
      ((new { maxCycles := 3 }).serveAll [.load "loop" "a:\nJMP a\n", .step]).calls = 3 := by
  have hreachable : Reachable { maxCycles := 3 }
      ((new { maxCycles := 3 }).serveAll [.load "loop" "a:\nJMP a\n", .step]) := ⟨_, _, rfl, rfl⟩
  exact ⟨(run_eq_iterated_step hreachable).1.1, rfl⟩

end RegisterMachine.Engine
