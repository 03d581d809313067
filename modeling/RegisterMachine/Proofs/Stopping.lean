import RegisterMachine.Proofs.Check
import RegisterMachine.Proofs.Tracing
import RegisterMachine.Proofs.Wording

/-!
When the step command says that it has stopped a program. It looks only at whether the machine still
runs when the trace ends. A step that fails halts the machine, unless there is nothing to execute,
so what the command says is true of every program but the empty one.
-/

namespace RegisterMachine

namespace Text

theorem getLast?_intercalate {c : Char} {last : String} (h : last.toList.getLast? = some c)
    (between : String) (texts : List String) :
    (between.intercalate (texts ++ [last])).toList.getLast? = some c := by
  rw [String.toList_intercalate, List.map_append]
  induction texts with
  | nil => rwa [List.map_nil, List.nil_append, List.map_singleton, List.intercalate_singleton]
  | cons text texts ih =>
    obtain ⟨next, rest, hrest⟩ : ∃ next rest,
        texts.map String.toList ++ [last].map String.toList = next :: rest := by
      apply List.exists_cons_of_ne_nil
      simp
    rw [hrest] at ih
    rw [List.map_cons, List.cons_append, hrest, List.intercalate_cons_cons, List.getLast?_append,
      ih]
    rfl

end Text

namespace Engine

variable {engine after : Engine} {failure : Failure} {count : Nat}

/-- A failure halts the machine, if there is something to execute. -/
theorem StepRule.halted_of_error (h : engine.StepRule (.error failure) after) :
    after.machine.halted = !engine.program.isEmpty := by
  cases h with
  | noProgram hrunning hempty =>
    rw [hrunning, hempty]
    rfl
  | pastEnd _ hprogram =>
    rw [hprogram]
    rfl
  | undecodable _ hcurrent =>
    rw [isEmpty_of_current? hcurrent]
    rfl
  | unresolved hdecodes | stray hdecodes =>
    rw [isEmpty_of_current? hdecodes.current]
    rfl
  | capped hperforms =>
    rw [isEmpty_of_current? hperforms.current]
    rfl

theorem step_of_isEmpty (hrunning : engine.machine.halted = false)
    (hempty : engine.program.isEmpty = true) : engine.step = (.error .noProgram, engine) :=
  (StepRule.noProgram hrunning hempty).step_eq

/-- A trace leaves a machine running if all its steps succeed and none of them halts it, or if there
is nothing to execute. -/
theorem trace_running_iff (hrunning : engine.machine.halted = false) (hcount : 1 ≤ count)
    (step : Nat) : (engine.trace step count).engine.machine.halted = false ↔
      (engine.Proceeds count ∧ (engine.stepped count).machine.halted = false) ∨
        engine.program.isEmpty = true := by
  rw [(engine.trace_eq_runFrom step (Nat.zero_le _) count).1]
  have hrule := engine.runRule (Nat.zero_le _) count
  generalize (engine.runFrom 0 count).1 = result at hrule
  generalize (engine.runFrom 0 count).2 = after at hrule ⊢
  generalize engine.callsFrom count = calls at hrule
  cases hrule with
  | halted hle hproceeds hhalted =>
    apply iff_of_false
    · rw [hhalted]
      exact Bool.noConfusion
    rintro (⟨hall, hend⟩ | hempty)
    · rcases Nat.lt_or_eq_of_le hle with hlt | rfl
      · cases hhalted.symm.trans (hall _ hlt).1
      · cases hhalted.symm.trans hend
    · rcases Nat.eq_zero_or_pos calls with rfl | hpos
      · cases hhalted.symm.trans hrunning
      · obtain ⟨_, halted, hok⟩ := hproceeds 0 hpos
        rw [stepped, step_of_isEmpty hrunning hempty] at hok
        cases hok
  | exhausted hproceeds hend => exact iff_of_true hend (.inl ⟨hproceeds, hend⟩)
  | @failed before failure hlt hproceeds _ hfailure =>
    rw [stepped_succ, (stepRule_of_error hfailure).halted_of_error, stepped_program]
    constructor
    · intro hprogram
      exact .inr (by simpa using hprogram)
    · rintro (⟨hall, _⟩ | hempty)
      · obtain ⟨_, halted, hok⟩ := hall before hlt
        cases hok.symm.trans hfailure
      · rw [hempty]
        rfl

end Engine

namespace Command.Context

variable {context : Context} {file : String} {input : InputSource} {script : Script}
variable {engine : Engine} {count : Nat}

/-- What it prints before: the table, and what the program has written, if that is anything. -/
def shownText (context : Context) (trace : Trace) : String :=
  (trace.table trace.engine.config.registerCount).render ++
    if trace.engine.outputText.isEmpty then ""
    else "\n" ++ Style.paint context.colours.out [.bold] "output:" ++ " " ++
      Text.quoted trace.engine.outputText

theorem traceText_eq (context : Context) (trace : Trace) (count : Nat) :
    context.traceText trace count = context.shownText trace ++ "\n" ++
      if trace.engine.machine.halted then "" else context.stoppedText count ++ "\n" := by
  unfold traceText shownText stoppedText
  by_cases hwritten : trace.engine.outputText.isEmpty = true
  · simp only [hwritten, ite_true, String.append_empty]
  · simp only [hwritten, Bool.false_eq_true, ite_false, String.append_assoc]

theorem getLast?_shownText (context : Context) (trace : Trace) :
    ∃ c, (context.shownText trace).toList.getLast? = some c ∧ (c = '┘' ∨ c = '"') := by
  unfold shownText
  split
  · rw [String.append_empty]
    refine ⟨'┘', ?_, .inl rfl⟩
    apply Text.getLast?_intercalate
    exact Text.getLast?_append_of_some rfl
  · refine ⟨'"', ?_, .inr rfl⟩
    apply Text.getLast?_append_of_some
    apply Text.getLast?_append_of_some
    rw [Text.quoted, String.toList_ofList, List.getLast?_concat]

/-- The last line of the output says that the program was stopped after so many steps. -/
def AnnouncesStop (context : Context) (count : Nat) (out : String) : Prop :=
  ∃ shown, out = shown ++ "\n" ++ context.stoppedText count ++ "\n"

theorem announcesStop_iff_running (h : context.prepare file input = .ok (script, engine))
    (count : Nat) : context.AnnouncesStop count (context.step file input count).out ↔
      (engine.trace 1 count).engine.machine.halted = false := by
  rw [out_step h, traceText_eq]
  cases hhalted : (engine.trace 1 count).engine.machine.halted with
  | false =>
    apply iff_of_true
    · exact ⟨context.shownText (engine.trace 1 count), by simp [String.append_assoc]⟩
    · rfl
  | true =>
    apply iff_of_false
    · rintro ⟨shown, hshown⟩
      -- The two texts end differently in front of the last line feed.
      obtain ⟨c, hc, hcases⟩ := context.getLast?_shownText (engine.trace 1 count)
      obtain ⟨d, hd, hdcases⟩ := context.getLast?_stoppedText count
      rw [if_pos rfl, String.append_empty, String.append_left_inj] at hshown
      rw [hshown, Text.getLast?_append_of_some hd] at hc
      cases hc
      rcases hcases with rfl | rfl <;> rcases hdcases with hd | hd <;> cases hd
    · exact Bool.noConfusion

/-- The command says that it stopped a program exactly if so many steps succeeded and the machine
still runs, or if the program is empty. In the latter case no step succeeded. -/
theorem stop_announced_iff (h : context.prepare file input = .ok (script, engine))
    (hcount : 1 ≤ count) :
    (context.AnnouncesStop count (context.step file input count).out ↔
      (engine.Proceeds count ∧ (engine.stepped count).machine.halted = false) ∨
        engine.program.isEmpty = true) ∧
    (engine.program.isEmpty = true → engine.step.1 = .error .noProgram) := by
  have hrunning : engine.machine.halted = false := by
    obtain ⟨start, program, text, _, _, rfl⟩ := prepare_eq_ok_cases h
    rfl
  constructor
  · rw [announcesStop_iff_running h, Engine.trace_running_iff hrunning hcount]
  · intro hempty
    rw [Engine.step_of_isEmpty hrunning hempty]

/-- A loop is stopped after two steps. A program that halts with the second step is not. -/
theorem stop_announced_in_loop : ∃ loop halting : Context,
    loop.read "p" = .ok "a:\nJMP a\n" ∧ halting.read "p" = .ok "INC r0\nHALT\n" ∧
    loop.AnnouncesStop 2 (loop.step "p" (.text "") 2).out ∧
    ¬ halting.AnnouncesStop 2 (halting.step "p" (.text "") 2).out := by
  let loop : Context := { read := fun _ => .ok "a:\nJMP a\n" }
  let halting : Context := { read := fun _ => .ok "INC r0\nHALT\n" }
  let name := Script.nameOf "p"
  let repeats : Engine :=
    ((Engine.new {}).install ⟨name, #[⟨"JMP", ["a"], 2, "JMP a"⟩], [⟨"a", 0, 1⟩]⟩).setInput ""
  let halts : Engine := ((Engine.new {}).install
    ⟨name, #[⟨"INC", ["r0"], 1, "INC r0"⟩, ⟨"HALT", [], 2, "HALT"⟩], []⟩).setInput ""
  have hloop : loop.prepare "p" (.text "") = .ok (⟨name, "p", "a:\nJMP a\n"⟩, repeats) := rfl
  have hhalting : halting.prepare "p" (.text "") =
      .ok (⟨name, "p", "INC r0\nHALT\n"⟩, halts) := rfl
  refine ⟨loop, halting, rfl, rfl, ?_, ?_⟩
  · apply (stop_announced_iff hloop (by decide : 1 ≤ 2)).1.mpr
    refine .inl ⟨?_, rfl⟩
    intro k hk
    obtain rfl | rfl : k = 0 ∨ k = 1 := by omega
    · exact ⟨rfl, false, rfl⟩
    · exact ⟨rfl, false, rfl⟩
  · intro hstop
    have hhalted : (halts.stepped 2).machine.halted = true := rfl
    rcases (stop_announced_iff hhalting (by decide : 1 ≤ 2)).1.mp hstop with ⟨_, hend⟩ | hempty
    · cases hhalted.symm.trans hend
    · cases hempty

/-- Of an empty program the command says that it was stopped after three steps, although the first
one failed. -/
theorem stop_announced_without_step : ∃ context script engine,
    Context.read context "empty.tvm" = .ok "" ∧
    context.prepare "empty.tvm" (.text "") = .ok (script, engine) ∧
    context.AnnouncesStop 3 (context.step "empty.tvm" (.text "") 3).out ∧
    engine.step.1 = .error .noProgram ∧ ¬ engine.Proceeds 3 := by
  let context : Context := { read := fun _ => .ok "" }
  have hprepare : context.prepare "empty.tvm" (.text "") = .ok (_, _) := rfl
  refine ⟨context, _, _, rfl, hprepare, (announcesStop_iff_running hprepare 3).mpr rfl, rfl, ?_⟩
  intro hproceeds
  obtain ⟨_, halted, hok⟩ := hproceeds 0 (by decide)
  cases hok

end Command.Context

end RegisterMachine
