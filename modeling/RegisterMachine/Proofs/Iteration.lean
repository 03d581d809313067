import RegisterMachine.Proofs.Step

/-!
Steps in a row. `stepped` calls for a step again and again, and `Proceeds` says that so far each
call found the machine running and succeeded. A run is such a row of calls, which ends with a halt,
with a failure or with the last of its rounds. No such row is longer than the cap, so the count of
the steps never ends a run.
-/

namespace RegisterMachine.Engine

variable {engine after : Engine} {next : Nat → Nat}

def stepped (engine : Engine) : Nat → Engine
  | 0 => engine
  | count + 1 => engine.step.2.stepped count

/-- Each of the first calls for a step finds the machine running and succeeds. -/
def Proceeds (engine : Engine) (count : Nat) : Prop :=
  ∀ k < count, (engine.stepped k).machine.halted = false ∧
    ∃ halted, (engine.stepped k).step.1 = .ok halted

/-- How many steps a run with this much fuel calls for. -/
def callsFrom (engine : Engine) : Nat → Nat
  | 0 => 0
  | fuel + 1 =>
    if engine.machine.halted then 0
    else
      match engine.step with
      | (.error _, _) => 1
      | (.ok _, after) => after.callsFrom fuel + 1

def calls (engine : Engine) : Nat :=
  engine.callsFrom (engine.config.maxCycles + 1)

theorem stepped_add (engine : Engine) (first second : Nat) :
    engine.stepped (first + second) = (engine.stepped first).stepped second := by
  induction first generalizing engine with
  | zero => rw [Nat.zero_add, stepped]
  | succ first ih =>
    rw [Nat.succ_add_eq_add_succ, Nat.add_succ]
    exact ih engine.step.2

theorem stepped_succ (engine : Engine) (count : Nat) :
    engine.stepped (count + 1) = (engine.stepped count).step.2 :=
  stepped_add engine count 1

theorem stepped_induction {P : Engine → Prop} (hstep : ∀ engine, P engine → P engine.step.2)
    (h : P engine) (count : Nat) : P (engine.stepped count) := by
  induction count with
  | zero => exact h
  | succ count ih =>
    rw [stepped_succ]
    exact hstep _ ih

theorem proceeds_zero (engine : Engine) : engine.Proceeds 0 := nofun

theorem proceeds_succ_iff {count : Nat} : engine.Proceeds (count + 1) ↔
    (engine.machine.halted = false ∧ ∃ halted, engine.step.1 = .ok halted) ∧
      engine.step.2.Proceeds count := by
  constructor
  · intro h
    refine ⟨h 0 (Nat.succ_pos count), ?_⟩
    intro k hk
    exact h (k + 1) (Nat.succ_lt_succ hk)
  · rintro ⟨hfirst, hrest⟩ k hk
    cases k with
    | zero => exact hfirst
    | succ k => exact hrest k (Nat.lt_of_succ_lt_succ hk)

theorem Proceeds.mono {first second : Nat} (h : engine.Proceeds second) (hle : first ≤ second) :
    engine.Proceeds first :=
  fun k hk => h k (Nat.lt_of_lt_of_le hk hle)

theorem Proceeds.add {first second : Nat} (hfirst : engine.Proceeds first)
    (hsecond : (engine.stepped first).Proceeds second) : engine.Proceeds (first + second) := by
  intro k hk
  by_cases hlt : k < first
  · exact hfirst k hlt
  · obtain ⟨rest, rfl⟩ := Nat.exists_eq_add_of_le (Nat.le_of_not_lt hlt)
    rw [stepped_add]
    exact hsecond rest (by omega)

/-- How a run of at most `fuel` steps ends, and how many calls it makes until then. -/
inductive RunRule (engine : Engine) (steps fuel : Nat) :
    Nat → Except Failure RunStatus → Engine → Prop where
  | halted {count : Nat} : count ≤ fuel → engine.Proceeds count →
      (engine.stepped count).machine.halted = true →
      RunRule engine steps fuel count (.ok ⟨true, steps + count⟩) (engine.stepped count)
  | exhausted : engine.Proceeds fuel → (engine.stepped fuel).machine.halted = false →
      RunRule engine steps fuel fuel (.ok ⟨false, steps + fuel⟩) (engine.stepped fuel)
  | failed {count : Nat} {failure : Failure} : count < fuel → engine.Proceeds count →
      (engine.stepped count).machine.halted = false →
      (engine.stepped count).step.1 = .error failure →
      RunRule engine steps fuel (count + 1) (.error failure) (engine.stepped (count + 1))

theorem RunRule.cons {final : Engine} {halted : Bool} {steps fuel calls : Nat}
    {result : Except Failure RunStatus} (hrunning : engine.machine.halted = false)
    (hstep : engine.step = (.ok halted, after))
    (h : after.RunRule (steps + 1) fuel calls result final) :
    engine.RunRule steps (fuel + 1) (calls + 1) result final := by
  have hafter : engine.step.2 = after := by rw [hstep]
  subst hafter
  have hfirst : engine.machine.halted = false ∧ ∃ halted, engine.step.1 = .ok halted :=
    ⟨hrunning, halted, by rw [hstep]⟩
  cases h with
  | @halted count hle hproceeds hhalted =>
    rw [Nat.add_assoc, Nat.add_comm 1]
    exact .halted (Nat.succ_le_succ hle) (proceeds_succ_iff.mpr ⟨hfirst, hproceeds⟩) hhalted
  | exhausted hproceeds hhalted =>
    rw [Nat.add_assoc, Nat.add_comm 1]
    exact .exhausted (proceeds_succ_iff.mpr ⟨hfirst, hproceeds⟩) hhalted
  | @failed count failure hlt hproceeds hhalted hfailure =>
    exact .failed (Nat.succ_lt_succ hlt) (proceeds_succ_iff.mpr ⟨hfirst, hproceeds⟩) hhalted
      hfailure

theorem runFromWith_of_halted (h : engine.machine.halted = true) (steps rounds : Nat) :
    engine.runFromWith next steps rounds = (.ok ⟨true, steps⟩, engine) := by
  cases rounds with
  | zero => simp only [runFromWith, h]
  | succ rounds => simp only [runFromWith, h, ite_true]

theorem runFromWith_of_error {failure : Failure} (hrunning : engine.machine.halted = false)
    (hstep : engine.stepWith next = (.error failure, after)) (steps rounds : Nat) :
    engine.runFromWith next steps (rounds + 1) = (.error failure, after) := by
  simp only [runFromWith, hrunning, hstep, Bool.false_eq_true, ite_false]

/-- A step that succeeds leaves the count of steps under the cap, as the cycles are. -/
theorem runFromWith_of_ok {halted : Bool} {steps : Nat}
    (hnext : ∀ count < engine.config.maxCycles, next count = count + 1)
    (hrunning : engine.machine.halted = false) (hstep : engine.step = (.ok halted, after))
    (hsteps : steps ≤ engine.machine.cycles) (rounds : Nat) :
    engine.runFromWith next steps (rounds + 1) = after.runFromWith next (steps + 1) rounds := by
  obtain ⟨hcycles, hunder⟩ := (stepRule_of_step hstep).cycles_of_ok hrunning
  have hconfig : after.config = engine.config := (stepRule_of_step hstep).config
  have hcount : next steps = steps + 1 := hnext steps (by omega)
  have hgoes : ¬ engine.config.maxCycles < steps + 1 := by omega
  simp only [runFromWith, hrunning, stepWith_of_ok hnext hstep, Bool.false_eq_true, ite_false,
    hconfig, hcount, hgoes]

theorem runRule (engine : Engine) {steps : Nat} (hsteps : steps ≤ engine.machine.cycles)
    (rounds : Nat) :
    engine.RunRule steps rounds (engine.callsFrom rounds) (engine.runFrom steps rounds).1
      (engine.runFrom steps rounds).2 := by
  induction rounds generalizing engine steps with
  | zero =>
    cases hhalted : engine.machine.halted with
    | true =>
      rw [runFrom, runFromWith_of_halted hhalted, callsFrom]
      exact .halted (Nat.le_refl 0) (proceeds_zero engine) hhalted
    | false =>
      simp only [runFrom, runFromWith, callsFrom, hhalted]
      exact .exhausted (proceeds_zero engine) hhalted
  | succ rounds ih =>
    cases hhalted : engine.machine.halted with
    | true =>
      simp only [runFrom, runFromWith_of_halted hhalted, callsFrom, hhalted, ite_true]
      exact .halted (Nat.zero_le _) (proceeds_zero engine) hhalted
    | false =>
      cases hstep : engine.step with
      | mk answer after =>
        simp only [callsFrom, hhalted, hstep, Bool.false_eq_true, ite_false]
        cases answer with
        | error failure =>
          have hafter : after = engine.stepped 1 := by
            rw [stepped, stepped, hstep]
          rw [runFrom, runFromWith_of_error hhalted hstep, hafter]
          exact .failed (Nat.succ_pos rounds) (proceeds_zero engine) hhalted
            (by rw [stepped, hstep])
        | ok halted =>
          have hcycles := ((stepRule_of_step hstep).cycles_of_ok hhalted).1
          rw [runFrom, runFromWith_of_ok (fun _ _ => rfl) hhalted hstep hsteps]
          exact .cons hhalted hstep (ih after (by omega))

theorem RunRule.stepped_eq {final : Engine} {steps fuel calls : Nat}
    {result : Except Failure RunStatus} (h : engine.RunRule steps fuel calls result final) :
    engine.stepped calls = final := by
  cases h <;> rfl

theorem runRule_of_run {result : Except Failure RunStatus} {final : Engine}
    (h : engine.run = (result, final)) :
    engine.RunRule 0 (engine.config.maxCycles + 1) engine.calls result final := by
  have hrule := engine.runRule (Nat.zero_le _) (engine.config.maxCycles + 1)
  rwa [← run, h] at hrule

@[simp] theorem stepped_calls (engine : Engine) : engine.stepped engine.calls = engine.run.2 :=
  (engine.runRule (Nat.zero_le _) _).stepped_eq

theorem run_eq_error_cases {failure : Failure} {final : Engine}
    (h : engine.run = (.error failure, final)) :
    ∃ count, engine.calls = count + 1 ∧ engine.Proceeds count ∧
      (engine.stepped count).machine.halted = false ∧
      (engine.stepped count).step.1 = .error failure := by
  have hrule := runRule_of_run h
  generalize engine.calls = calls at hrule
  cases hrule with
  | @failed count _ _ hproceeds hrunning hfailure =>
    exact ⟨count, rfl, hproceeds, hrunning, hfailure⟩

/-- Steps that succeed can be taken out of a run, whichever way the counter goes on past the cap. -/
theorem Proceeds.runFromWith_eq {count steps : Nat} (h : engine.Proceeds count)
    (hnext : ∀ count < engine.config.maxCycles, next count = count + 1)
    (hsteps : steps ≤ engine.machine.cycles) (rounds : Nat) :
    engine.runFromWith next steps (count + rounds) =
      (engine.stepped count).runFromWith next (steps + count) rounds := by
  induction count generalizing engine steps with
  | zero => rw [Nat.zero_add, Nat.add_zero, stepped]
  | succ count ih =>
    obtain ⟨⟨hrunning, halted, hok⟩, hrest⟩ := proceeds_succ_iff.mp h
    have hstep : engine.step = (.ok halted, engine.step.2) := by rw [← hok]
    have hcycles := ((stepRule_of_step hstep).cycles_of_ok hrunning).1
    have hconfig : engine.step.2.config = engine.config := engine.stepRule.config
    rw [Nat.succ_add_eq_add_succ, Nat.add_succ, runFromWith_of_ok hnext hrunning hstep hsteps,
      ih hrest (hconfig ▸ hnext) (by omega), Nat.add_assoc, Nat.add_comm 1]
    rfl

theorem Proceeds.runFromWith_eq_ok {count rounds : Nat} (h : engine.Proceeds count)
    (hnext : ∀ count < engine.config.maxCycles, next count = count + 1)
    (hhalted : (engine.stepped count).machine.halted = true) (hle : count ≤ rounds) :
    engine.runFromWith next 0 rounds = (.ok ⟨true, count⟩, engine.stepped count) := by
  obtain ⟨rounds, rfl⟩ := Nat.exists_eq_add_of_le hle
  rw [h.runFromWith_eq hnext (Nat.zero_le _), Nat.zero_add, runFromWith_of_halted hhalted]

theorem Proceeds.runFromWith_eq_error {count rounds : Nat} {failure : Failure}
    (h : engine.Proceeds count) (hnext : ∀ count < engine.config.maxCycles, next count = count + 1)
    (hrunning : (engine.stepped count).machine.halted = false)
    (hfailure : (engine.stepped count).stepWith next = (.error failure, after))
    (hlt : count < rounds) : engine.runFromWith next 0 rounds = (.error failure, after) := by
  obtain ⟨rounds, rfl⟩ := Nat.exists_eq_add_of_lt hlt
  rw [Nat.add_assoc, h.runFromWith_eq hnext (Nat.zero_le _), runFromWith_of_error hrunning hfailure]

theorem Proceeds.runFrom_eq_ok {count rounds : Nat} (h : engine.Proceeds count)
    (hhalted : (engine.stepped count).machine.halted = true) (hle : count ≤ rounds) :
    engine.runFrom 0 rounds = (.ok ⟨true, count⟩, engine.stepped count) :=
  h.runFromWith_eq_ok (fun _ _ => rfl) hhalted hle

theorem Proceeds.runFrom_eq_error {count rounds : Nat} {failure : Failure}
    (h : engine.Proceeds count) (hrunning : (engine.stepped count).machine.halted = false)
    (hfailure : (engine.stepped count).step.1 = .error failure) (hlt : count < rounds) :
    engine.runFrom 0 rounds = (.error failure, engine.stepped (count + 1)) := by
  apply h.runFromWith_eq_error (fun _ _ => rfl) hrunning _ hlt
  rw [stepped_succ, ← hfailure]
  rfl

theorem Proceeds.run_eq_ok {count : Nat} (h : engine.Proceeds count)
    (hhalted : (engine.stepped count).machine.halted = true)
    (hle : count ≤ engine.config.maxCycles + 1) :
    engine.run = (.ok ⟨true, count⟩, engine.stepped count) :=
  h.runFrom_eq_ok hhalted hle

theorem Proceeds.run_eq_error {count : Nat} {failure : Failure} (h : engine.Proceeds count)
    (hrunning : (engine.stepped count).machine.halted = false)
    (hfailure : (engine.stepped count).step.1 = .error failure)
    (hlt : count < engine.config.maxCycles + 1) :
    engine.run = (.error failure, engine.stepped (count + 1)) :=
  h.runFrom_eq_error hrunning hfailure hlt

/-- Less fuel only makes for fewer calls. -/
theorem callsFrom_eq_min_of_le {fuel more : Nat} (engine : Engine) (hle : fuel ≤ more) :
    engine.callsFrom fuel = min fuel (engine.callsFrom more) := by
  induction fuel generalizing engine more with
  | zero => rw [callsFrom, Nat.zero_min]
  | succ fuel ih =>
    obtain ⟨more, rfl⟩ := Nat.exists_eq_add_of_le' hle
    rw [← Nat.add_assoc, callsFrom, callsFrom]
    cases hhalted : engine.machine.halted with
    | true => simp
    | false =>
      simp only [Bool.false_eq_true, ite_false]
      cases hstep : engine.step with
      | mk answer after =>
        cases answer with
        | error failure =>
          simp only
          omega
        | ok halted =>
          simp only
          rw [ih after (Nat.le_add_left fuel more)]
          omega

end RegisterMachine.Engine
