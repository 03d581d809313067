import RegisterMachine.Command.Response
import RegisterMachine.Proofs.Integer
import RegisterMachine.Proofs.Table

/-!
The two commands that execute a program. One runs it, the other takes a number of steps and prints a
row for each. The second is a run of that number of rounds, so with enough of them both commands come
to the same end, and with fewer the second stops on the way there. No row breaks its line, so the
rows can be counted in what is printed.
-/

namespace RegisterMachine

open Text (Lacks lacks_append)

namespace Text

theorem feed_not_mem_quotedChar (c : Char) : '\n' ∉ quotedChar c := by
  unfold quotedChar
  split
  case h_7 _ _ _ hfeed _ _ =>
    split
    · simpa using Ne.symm hfeed
    · obtain ⟨digits, _, hdigits, htext, _⟩ :=
        exists_digits_toDigits (by decide : 1 < 16) c.toNat
      have hhex : ∀ d < 16, Nat.digitChar d ≠ '\n' := by decide
      have hnumber : '\n' ∉ hexadecimal c.toNat := by
        rw [hexadecimal, htext]
        intro hmem
        obtain ⟨d, hd, heq⟩ := List.mem_map.mp hmem
        exact hhex d (hdigits d hd) heq
      simp [hnumber]
  all_goals decide

theorem lacks_feed_quoted (text : String) : Lacks '\n' (quoted text) := by
  rw [Lacks, quoted, String.toList_ofList]
  simp only [List.cons_append, List.mem_cons, List.mem_append, List.mem_flatMap, not_or]
  refine ⟨by decide, ?_, by decide, List.not_mem_nil⟩
  rintro ⟨c, _, hc⟩
  exact feed_not_mem_quotedChar c hc

end Text

theorem Instruction.lacks_feed_text {instruction : Instruction}
    (h : Source.Action.OneLine ⟨instruction.opcode, instruction.operands⟩) :
    Lacks '\n' instruction.text := by
  unfold text
  split
  · exact h.opcode
  · simp only [lacks_append]
    exact ⟨⟨h.opcode, by decide⟩, Text.lacks_intercalate (by decide) h.operands⟩

@[simp] theorem Trace.length_table (trace : Trace) (registerCount : Nat) :
    (trace.table registerCount).rows.length = trace.rows.length := by
  simp [table]

theorem Trace.whole_table {trace : Trace} (h : ∀ row ∈ trace.rows, Lacks '\n' row.text)
    (registerCount : Nat) : ∀ line ∈ (trace.table registerCount).lines, Text.Whole line := by
  have hnumber : ∀ n : Nat, Lacks '\n' (toString n) := Text.lacks_toString rfl
  have hdigit : ∀ value, Lacks '\n' (digit value) := by decide
  apply Table.whole_lines
  · intro cell hcell
    simp only [table, List.mem_append, List.mem_cons, List.not_mem_nil, or_false, registerNames,
      List.mem_map] at hcell
    rcases hcell with (((rfl | rfl | rfl | rfl) | ⟨index, _, rfl⟩) | rfl | rfl)
    case inl.inr => exact lacks_append.mpr ⟨by decide, hnumber index⟩
    all_goals decide
  · intro cells hcells
    obtain ⟨row, hrow, rfl⟩ := List.mem_map.mp hcells
    intro cell hcell
    simp only [List.mem_append, List.mem_cons, List.not_mem_nil, or_false, List.mem_map] at hcell
    rcases hcell with ((rfl | rfl | rfl | rfl) | ⟨value, _, rfl⟩) | rfl | rfl
    · exact hnumber _
    · exact hnumber _
    · exact hnumber _
    · exact h row hrow
    · exact Text.lacks_toString_int rfl (by decide) _
    · exact hdigit _
    · exact hdigit _

namespace Engine

/-- The rows of the first calls for a step, the first of which has the given number. -/
def callRows (engine : Engine) (step count : Nat) : List TraceRow :=
  (List.range count).map fun k => (engine.stepped k).traceRow (engine.stepped (k + 1)) (step + k)

@[simp] theorem length_callRows (engine : Engine) (step count : Nat) :
    (engine.callRows step count).length = count := by
  simp [callRows]

theorem callRows_succ (engine : Engine) (step count : Nat) :
    engine.callRows step (count + 1) =
      engine.traceRow engine.step.2 step :: engine.step.2.callRows (step + 1) count := by
  simp only [callRows, List.range_succ_eq_map, List.map_cons, List.map_map, List.cons.injEq]
  refine ⟨rfl, List.map_congr_left ?_⟩
  intro k _
  rw [Nat.add_assoc, Nat.add_comm 1]
  rfl

/-- A trace is a run with as many rounds as steps are asked for, and a row for each call. -/
theorem trace_eq_runFrom (engine : Engine) (step : Nat) {steps : Nat}
    (hsteps : steps ≤ engine.machine.cycles) (count : Nat) :
    (engine.trace step count).engine = (engine.runFrom steps count).2 ∧
    (engine.trace step count).rows = engine.callRows step (engine.callsFrom count) ∧
    ∀ failure, (engine.trace step count).failure = some failure ↔
      (engine.runFrom steps count).1 = .error failure := by
  induction count generalizing engine step steps with
  | zero => simp [trace, runFrom, runFromWith, callsFrom, callRows]
  | succ count ih =>
    cases hhalted : engine.machine.halted with
    | true => simp [trace, runFrom, runFromWith_of_halted hhalted, callsFrom, hhalted, callRows]
    | false =>
      cases hstep : engine.step with
      | mk answer after =>
        have hafter : engine.step.2 = after := by rw [hstep]
        simp only [trace, callsFrom, hhalted, hstep, Bool.false_eq_true, ite_false]
        cases answer with
        | error failure =>
          rw [runFrom, runFromWith_of_error hhalted hstep, callRows_succ, hafter]
          simp only [Option.some.injEq, Except.error.injEq, implies_true, and_true, true_and]
          rfl
        | ok halted =>
          have hcycles := ((stepRule_of_step hstep).cycles_of_ok hhalted).1
          rw [runFrom, runFromWith_of_ok (fun _ _ => rfl) hhalted hstep hsteps, callRows_succ,
            hafter]
          obtain ⟨hengine, hrows, hfailure⟩ := ih after (step + 1) (by omega : steps + 1 ≤ _)
          exact ⟨hengine, congrArg _ hrows, hfailure⟩

theorem trace_eq_stepped (engine : Engine) (step count : Nat) :
    (engine.trace step count).engine = engine.stepped (min count engine.calls) ∧
    (engine.trace step count).rows = engine.callRows step (min count engine.calls) := by
  obtain ⟨hengine, hrows, _⟩ := engine.trace_eq_runFrom step (Nat.zero_le _) count
  rw [← callsFrom_eq_min, (engine.runRule (Nat.zero_le _) count).stepped_eq]
  exact ⟨hengine, hrows⟩

theorem trace_eq_run {engine : Engine} {count : Nat}
    (h : engine.config.maxCycles + 1 ≤ count) (step : Nat) :
    (engine.trace step count).engine = engine.run.2 ∧
    ∀ failure, (engine.trace step count).failure = some failure ↔
      engine.run.1 = .error failure := by
  obtain ⟨hengine, _, hfailure⟩ := engine.trace_eq_runFrom step (Nat.zero_le _) count
  rw [runFrom_eq_run h] at hengine hfailure
  exact ⟨hengine, hfailure⟩

theorem lacks_feed_callRows {engine : Engine}
    (h : ∀ action ∈ engine.program.actions, action.OneLine) (step count : Nat) :
    ∀ row ∈ engine.callRows step count, Lacks '\n' row.text := by
  intro row hrow
  obtain ⟨k, _, rfl⟩ := List.mem_map.mp hrow
  cases hcurrent : (engine.stepped k).current? with
  | none =>
    simp only [traceRow, hcurrent, Option.map_none, Option.getD_none]
    decide
  | some instruction =>
    have hmem := mem_of_current? hcurrent
    rw [stepped_program] at hmem
    simp only [traceRow, hcurrent, Option.map_some, Option.getD_some]
    exact Instruction.lacks_feed_text (h _ (List.mem_map.mpr ⟨instruction, hmem, rfl⟩))

end Engine

namespace Command.Context

variable {context : Context} {file : String} {input : InputSource} {script : Script}
variable {engine : Engine}

theorem engine_eq_ok_cases {text : String}
    (h : context.engine script text = .ok engine) : ∃ start program,
      Engine.new? context.config = .ok start ∧
      Program.assemble script.name script.content = .ok program ∧
      engine = (start.install program).setInput text := by
  unfold Context.engine at h
  split at h
  · cases h
  · rename_i start hstart
    cases hassemble : Program.assemble script.name script.content with
    | error duplicate =>
      simp only [Engine.load, hassemble] at h
      cases h
    | ok program =>
      simp only [Engine.load, hassemble] at h
      exact ⟨start, program, hstart, rfl, (Except.ok.inj h).symm⟩

theorem prepare_eq_ok_cases
    (h : context.prepare file input = .ok (script, engine)) : ∃ start program text,
      Engine.new? context.config = .ok start ∧ script.assemble = .ok program ∧
      engine = (start.install program).setInput text := by
  unfold prepare at h
  cases hscript : context.script file with
  | error response =>
    rw [hscript] at h
    cases h
  | ok found =>
    cases htext : context.input input with
    | error response =>
      rw [hscript, htext] at h
      cases h
    | ok text =>
      cases hengine : context.engine found text with
      | error response =>
        rw [hscript, htext] at h
        simp only [bind, Except.bind, hengine] at h
        cases h
      | ok ready =>
        rw [hscript, htext] at h
        simp only [bind, Except.bind, hengine] at h
        cases h
        obtain ⟨start, program, hready⟩ := engine_eq_ok_cases hengine
        exact ⟨start, program, text, hready⟩

theorem reachable_of_prepare
    (h : context.prepare file input = .ok (script, engine)) :
    Engine.Reachable context.config engine := by
  obtain ⟨start, program, text, hstart, hassemble, rfl⟩ := prepare_eq_ok_cases h
  refine ⟨start, [.load script.name script.content, .setInput text], hstart, ?_⟩
  have hload : start.load script.name script.content = (.ok (), start.install program) := by
    rw [Script.assemble] at hassemble
    simp only [Engine.load, hassemble]
  simp only [Engine.serveAll, Engine.serve, List.foldl_cons, List.foldl_nil, hload]

theorem out_step (h : context.prepare file input = .ok (script, engine)) (count : Nat) :
    (context.step file input count).out = context.traceText (engine.trace 1 count) count := by
  simp only [step, h]
  cases (engine.trace 1 count).failure <;> rfl

theorem out_run (h : context.prepare file input = .ok (script, engine)) (dump : Option Dump) :
    (context.run file input dump).out =
      engine.run.2.outputText ++ dumpText engine.run.1 engine.run.2 dump := by
  simp only [run, h]
  cases hrun : engine.run with
  | mk result after => cases result <;> rfl

def stoppedText (context : Context) (count : Nat) : String :=
  Style.paint context.colours.out [.yellow] ("stopped after " ++ toString count ++ " steps")

theorem getLast?_stoppedText (context : Context) (count : Nat) :
    ∃ c, (context.stoppedText count).toList.getLast? = some c ∧ (c = 's' ∨ c = 'm') := by
  unfold stoppedText Style.paint
  split
  · exact ⟨'m', Text.getLast?_append_of_some rfl, .inr rfl⟩
  · exact ⟨'s', Text.getLast?_append_of_some rfl, .inl rfl⟩

def outputLines (context : Context) (output : String) : List String :=
  if output.isEmpty then []
  else [Style.paint context.colours.out [.bold] "output:" ++ " " ++ Text.quoted output]

def traceLines (context : Context) (trace : Trace) (count : Nat) : List String :=
  (trace.table trace.engine.config.registerCount).lines ++
    context.outputLines trace.engine.outputText ++
    if trace.engine.machine.halted then [] else [context.stoppedText count]

theorem toList_traceText (context : Context) (trace : Trace) (count : Nat) :
    (context.traceText trace count).toList =
      Text.unlines ((context.traceLines trace count).map String.toList) := by
  have htable : ∀ table : Table, (table.render ++ "\n").toList =
      Text.unlines (table.lines.map String.toList) :=
    fun table => Text.toList_intercalate_feed (List.cons_ne_nil _ _)
  unfold traceText traceLines outputLines stoppedText
  rw [String.toList_append, String.toList_append, htable]
  simp only [List.map_append, Text.unlines_append]
  split <;> split <;> simp [Text.unlines]

theorem countP_traceLines (context : Context) (trace : Trace) (count : Nat) :
    ((context.traceLines trace count).map String.toList).countP Text.isRow =
      trace.rows.length + 1 := by
  have houtput : ((context.outputLines trace.engine.outputText).map String.toList).countP
      Text.isRow = 0 := by
    have hpaint : ∀ coloured, (Style.paint coloured [.bold] "output:").toList ≠ [] ∧
        Text.isRow (Style.paint coloured [.bold] "output:").toList = false := by decide
    obtain ⟨hne, hrow⟩ := hpaint context.colours.out
    unfold outputLines
    split
    · rfl
    · rw [List.map_singleton, List.countP_singleton, String.append_assoc, Text.isRow_append hne,
        hrow]
      rfl
  have hstopped : Text.isRow (context.stoppedText count).toList = false := by
    unfold stoppedText Style.paint
    simp only [String.append_assoc]
    split <;> exact Text.isRow_append (by decide) _
  have hlast : ((if trace.engine.machine.halted then [] else [context.stoppedText count]).map
      String.toList).countP Text.isRow = 0 := by
    split
    · rfl
    · simp [hstopped]
  simp only [traceLines, List.map_append, List.countP_append, Table.countP_lines, houtput, hlast,
    Trace.length_table, Nat.add_zero]

theorem whole_traceLines {trace : Trace} (h : ∀ row ∈ trace.rows, Lacks '\n' row.text)
    (context : Context) (count : Nat) :
    ∀ line ∈ context.traceLines trace count, Text.Whole line := by
  have houtput : ∀ coloured, Lacks '\n' (Style.paint coloured [.bold] "output:" ++ " ") := by decide
  have hstopped : Lacks '\n' (context.stoppedText count) := by
    have hnumber : Lacks '\n' (toString count) := Text.lacks_toString rfl count
    unfold stoppedText Style.paint
    split <;> simp only [lacks_append, hnumber] <;> decide
  obtain ⟨c, hlast, hc⟩ := context.getLast?_stoppedText count
  intro line hline
  rcases List.mem_append.mp hline with hline | hline
  · rcases List.mem_append.mp hline with hline | hline
    · exact Trace.whole_table h _ line hline
    · unfold outputLines at hline
      split at hline
      · cases hline
      · rw [List.mem_singleton.mp hline]
        apply Text.whole_of_last (c := '"') _ _ (by decide)
        · exact lacks_append.mpr ⟨houtput _, Text.lacks_feed_quoted _⟩
        · apply Text.getLast?_append_of_some
          rw [Text.quoted, String.toList_ofList, List.getLast?_concat]
  · split at hline
    · cases hline
    · rw [List.mem_singleton.mp hline]
      apply Text.whole_of_last hstopped hlast
      rcases hc with rfl | rfl <;> decide

/-- The printed table has a line for its header and one for each call. -/
theorem countP_lines_step (h : context.prepare file input = .ok (script, engine)) (count : Nat) :
    (Text.lines (context.step file input count).out.toList).countP Text.isRow =
      min count engine.calls + 1 := by
  have hprogram : ∀ action ∈ engine.program.actions, action.OneLine := by
    obtain ⟨start, program, text, _, hassemble, rfl⟩ := prepare_eq_ok_cases h
    exact Program.oneLine_of_assemble hassemble
  have hrows := (engine.trace_eq_stepped 1 count).2
  have hlines : ∀ row ∈ (engine.trace 1 count).rows, Lacks '\n' row.text := by
    rw [hrows]
    exact Engine.lacks_feed_callRows hprogram 1 _
  rw [out_step h, toList_traceText, Text.lines_unlines_of_whole (whole_traceLines hlines _ _),
    countP_traceLines, hrows, Engine.length_callRows]

/-- With more steps than the cap, the step command ends as the run command does: with the same
engine, the same failure or none, the same code and the same report. With any number of steps it has
made that many of the calls that the run makes, or all of them. The table that it prints has a row
for each of these calls, and a line for each row below that of the header. The run command prints
what the program has written, and the dump of the engine that its run ends with. -/
theorem step_agrees_with_run (context : Context) (file : String) (input : InputSource) :
    (∀ dump count, context.config.maxCycles + 1 ≤ count →
      (context.step file input count).code = (context.run file input dump).code ∧
      (context.step file input count).err = (context.run file input dump).err) ∧
    ∀ script engine, context.prepare file input = .ok (script, engine) →
      (∀ dump, (context.run file input dump).out =
        engine.run.2.outputText ++ dumpText engine.run.1 engine.run.2 dump) ∧
      ∀ count,
        (engine.trace 1 count).engine = engine.stepped (min count engine.calls) ∧
        (engine.trace 1 count).rows = engine.callRows 1 (min count engine.calls) ∧
        ((engine.trace 1 count).table context.config.registerCount).rows.length =
          min count engine.calls ∧
        (context.step file input count).out = context.traceText (engine.trace 1 count) count ∧
        (Text.lines (context.step file input count).out.toList).countP Text.isRow =
          min count engine.calls + 1 ∧
        (context.config.maxCycles + 1 ≤ count →
          (engine.trace 1 count).engine = engine.run.2 ∧
          (engine.trace 1 count).engine.outputText = engine.run.2.outputText ∧
          ∀ failure, (engine.trace 1 count).failure = some failure ↔
            engine.run.1 = .error failure) := by
  have hagree : ∀ script engine, context.prepare file input = .ok (script, engine) → ∀ count,
      context.config.maxCycles + 1 ≤ count →
      (engine.trace 1 count).engine = engine.run.2 ∧
      ∀ failure, (engine.trace 1 count).failure = some failure ↔
        engine.run.1 = .error failure := by
    intro script engine hprepare count hcount
    rw [← (reachable_of_prepare hprepare).config_eq] at hcount
    exact Engine.trace_eq_run hcount 1
  constructor
  · intro dump count hcount
    cases hprepare : context.prepare file input with
    | error response => simp only [step, run, hprepare, and_self]
    | ok ready =>
      obtain ⟨script, engine⟩ := ready
      obtain ⟨_, hfailure⟩ := hagree script engine hprepare count hcount
      simp only [step, run, hprepare]
      cases hrun : engine.run.1 with
      | ok status =>
        have hnone : (engine.trace 1 count).failure = none := by
          rw [Option.eq_none_iff_forall_ne_some]
          intro failure hsome
          cases hrun.symm.trans ((hfailure failure).mp hsome)
        simp only [hnone, and_self]
      | error failure => simp only [(hfailure failure).mpr hrun, and_self]
  · intro script engine hprepare
    refine ⟨out_run hprepare, ?_⟩
    intro count
    obtain ⟨hengine, hrows⟩ := engine.trace_eq_stepped 1 count
    have htable : ((engine.trace 1 count).table context.config.registerCount).rows.length =
        min count engine.calls := by
      simp [hrows]
    refine ⟨hengine, hrows, htable, out_step hprepare count, countP_lines_step hprepare count, ?_⟩
    intro hcount
    obtain ⟨hend, hfailure⟩ := hagree script engine hprepare count hcount
    exact ⟨hend, congrArg Engine.outputText hend, hfailure⟩

/-- A loop without an end is cut by a cap of two: both commands fail alike when three steps are
asked for, and when more are, no more rows are printed. -/
theorem step_agrees_with_run_on_loop : ∃ context script engine,
    Context.config context = { maxCycles := 2 } ∧
    context.prepare "loop" (.text "") = .ok (script, engine) ∧
    (context.step "loop" (.text "") 3).err = (context.run "loop" (.text "") none).err ∧
    (context.step "loop" (.text "") 3).code = (context.run "loop" (.text "") none).code ∧
    (context.run "loop" (.text "") none).code = 2 ∧
    (context.run "loop" (.text "") none).out =
      engine.run.2.outputText ++ dumpText engine.run.1 engine.run.2 none ∧
    ((engine.trace 1 2).table 4).rows.length = 2 ∧ ((engine.trace 1 9).table 4).rows.length = 3 ∧
    (context.step "loop" (.text "") 2).out = context.traceText (engine.trace 1 2) 2 ∧
    (Text.lines (context.step "loop" (.text "") 2).out.toList).countP Text.isRow = 3 ∧
    (Text.lines (context.step "loop" (.text "") 9).out.toList).countP Text.isRow = 4 := by
  let context : Context :=
    { read := fun _ => .ok "a:\nINC r0\nJMP a\n", config := { maxCycles := 2 } }
  have hprepare : context.prepare "loop" (.text "") = .ok (_, _) := rfl
  obtain ⟨hcommands, hready⟩ := step_agrees_with_run context "loop" (.text "")
  obtain ⟨hcode, herr⟩ := hcommands none 3 (by decide)
  obtain ⟨hran, htraces⟩ := hready _ _ hprepare
  obtain ⟨_, _, htwo, hout, hprinted, _⟩ := htraces 2
  obtain ⟨_, _, hthree, _, hcut, _⟩ := htraces 9
  exact ⟨context, _, _, rfl, hprepare, herr, hcode, rfl, hran none, htwo, hthree, hout, hprinted,
    hcut⟩

end Command.Context

end RegisterMachine
