import RegisterMachine.Command.Response
import RegisterMachine.Proofs.Wording

/-!
The check command loses no problem. A collector drops a report when it has one with the same message
and code, wherever these point. It drops no problem of a program all the same, since the message of
a problem tells its line and no two problems share one.
-/

namespace RegisterMachine

namespace Collector

variable {collector : Collector} {report : Report} {reports : List Report}

theorem push_of_new (h : ∀ old ∈ collector.reports, same report old = false) :
    collector.push report = ⟨collector.reports ++ [report]⟩ := by
  have hnew : ¬ collector.reports.any (same report) = true := by
    rw [List.any_eq_true]
    rintro ⟨old, hold, hsame⟩
    rw [h old hold] at hsame
    cases hsame
  rw [push, if_neg hnew]

/-- Reports of which no two count as the same are all kept, in their order. -/
theorem extend_of_pairwise
    (h : (collector.reports ++ reports).Pairwise fun old new => same new old = false) :
    collector.extend reports = ⟨collector.reports ++ reports⟩ := by
  induction reports generalizing collector with
  | nil =>
    rw [List.append_nil]
    rfl
  | cons report rest ih =>
    have hnew : ∀ old ∈ collector.reports, same report old = false := by
      intro old hold
      exact (List.pairwise_append.mp h).2.2 old hold report List.mem_cons_self
    rw [List.append_cons] at h ⊢
    rw [extend, List.foldl_cons, push_of_new hnew]
    exact ih h

end Collector

namespace Program

variable {program : Program} {config : Config} {failure : Failure}

theorem isStatic_of_mem_check (h : failure ∈ program.check config) : failure.isStatic = true := by
  obtain ⟨instruction, _, hproblem⟩ := List.mem_filterMap.mp h
  exact Instruction.isStatic_of_problem? hproblem

def reports (program : Program) (config : Config) : List Report :=
  (program.check config).map Report.ofFailure

/-- No two reports of an assembled program count as the same. -/
theorem reports_pairwise {line : Nat} (h : program.Ordered line) (config : Config) :
    (program.reports config).Pairwise fun old new => Collector.same new old = false := by
  rw [reports, List.pairwise_map]
  apply (check_pairwise h config).imp_of_mem
  rintro first second hfirst hsecond ⟨here, there, hhere, hthere, hlt⟩
  rw [Bool.eq_false_iff]
  intro hsame
  have hmessage : second.message = first.message :=
    beq_iff_eq.mp (Bool.and_eq_true_iff.mp hsame).1
  have hline := Failure.line_eq_of_message_eq (isStatic_of_mem_check hsecond)
    (isStatic_of_mem_check hfirst) hthere hhere hmessage
  omega

theorem severity_of_mem_reports {report : Report} (h : report ∈ program.reports config) :
    report.severity = .error := by
  obtain ⟨failure, hfailure, rfl⟩ := List.mem_map.mp h
  have hstatic := isStatic_of_mem_check hfailure
  cases failure with
  | badOperand | unknownLabel | unknownOpcode => rfl
  | _ => cases hstatic

theorem count_reports (program : Program) (config : Config) (severity : Severity) :
    Collector.count ⟨program.reports config⟩ severity =
      if severity = .error then (program.check config).length else 0 := by
  have hlength : (program.reports config).length = (program.check config).length :=
    List.length_map _
  unfold Collector.count
  by_cases hseverity : severity = .error
  · rw [if_pos hseverity, ← hlength, List.countP_eq_length]
    intro report hreport
    rw [severity_of_mem_reports hreport, hseverity]
    rfl
  · rw [if_neg hseverity, List.countP_eq_zero]
    intro report hreport
    rw [severity_of_mem_reports hreport, beq_iff_eq]
    exact fun hsame => hseverity hsame.symm

theorem hasErrors_reports (program : Program) (config : Config) :
    Collector.hasErrors ⟨program.reports config⟩ = true ↔ 0 < (program.check config).length := by
  rw [Collector.hasErrors, List.any_eq_true]
  constructor
  · rintro ⟨report, hreport, _⟩
    obtain ⟨failure, hfailure, _⟩ := List.mem_map.mp hreport
    exact List.length_pos_of_mem hfailure
  · intro hlength
    obtain ⟨failure, hfailure⟩ := List.exists_mem_of_length_pos hlength
    have hreport : Report.ofFailure failure ∈ program.reports config :=
      List.mem_map_of_mem hfailure
    refine ⟨_, hreport, ?_⟩
    rw [severity_of_mem_reports hreport]
    rfl

end Program

namespace Command.Context

variable {script : Script} {program : Program} {duplicate : DuplicateLabel}

theorem collect_of_assembled (h : script.assemble = .ok program) (config : Config) :
    collect script config = (some program, ⟨program.reports config⟩) := by
  have hpairwise := Program.reports_pairwise (Program.ordered_of_assemble h) config
  have hextend := @Collector.extend_of_pairwise {} _ hpairwise
  simp only [collect, h]
  exact congrArg (Prod.mk _) hextend

theorem collect_of_duplicate (h : script.assemble = .error duplicate) (config : Config) :
    collect script config = (none, ⟨[Report.ofFailure (.duplicateLabel duplicate)]⟩) := by
  simp only [collect, h]
  rfl

theorem code_check {context : Context} {file : String} (h : context.script file = .ok script)
    (format : Format) : (context.check file format).code =
      if (collect script context.config).2.hasErrors = true then 1 else 0 := by
  simp only [Context.check, h]
  cases format with
  | json => rfl
  | text =>
    simp only
    split <;> rfl

/-- The collector of a script that assembles holds one report for each problem, in the order of the
check, and all of them are errors; one that does not assemble has a single report. The command ends
with 1 exactly if there is a report, in either format. -/
theorem check_loses_no_problem (script : Script) (config : Config) :
    (∀ program, script.assemble = .ok program →
      collect script config = (some program, ⟨(program.check config).map Report.ofFailure⟩) ∧
      (collect script config).2.reports.length = (program.check config).length ∧
      [.fatal, .error, .warning, .info].map (collect script config).2.count =
        [0, (program.check config).length, 0, 0] ∧
      ∀ context file format, Context.config context = config →
        context.script file = .ok script → (context.check file format).code =
          if 0 < (program.check config).length then 1 else 0) ∧
    ∀ duplicate, script.assemble = .error duplicate →
      collect script config = (none, ⟨[Report.ofFailure (.duplicateLabel duplicate)]⟩) ∧
      ∀ context file format, Context.config context = config →
        context.script file = .ok script → (context.check file format).code = 1 := by
  constructor
  · intro program hassemble
    have hcollect := collect_of_assembled hassemble config
    refine ⟨hcollect, ?_, ?_, ?_⟩
    · rw [hcollect]
      exact List.length_map _
    · simp only [hcollect, List.map_cons, List.map_nil, Program.count_reports, reduceCtorEq,
        ite_false, ite_true]
    · rintro context file format rfl hscript
      simp only [code_check hscript, hcollect, Program.hasErrors_reports]
  · intro duplicate hassemble
    have hcollect := collect_of_duplicate hassemble config
    refine ⟨hcollect, ?_⟩
    rintro context file format rfl hscript
    rw [code_check hscript, hcollect]
    rfl

/-- The same wrong operand on two lines, and one that ends as the message of another line does. -/
theorem check_reports_repeated_problem : ∃ context script program,
    Context.script context "twice" = .ok script ∧
    script.content = "INC r9\nINC r9\nINC a' on line 2.\n" ∧ script.assemble = .ok program ∧
    (program.check {}).length = 3 ∧ (collect script {}).2.reports.length = 3 ∧
    (context.check "twice" .json).code = 1 := by
  let script : Script :=
    ⟨Script.nameOf "twice", "twice", "INC r9\nINC r9\nINC a' on line 2.\n"⟩
  let context : Context := { read := fun _ => .ok script.content }
  have hscript : context.script "twice" = .ok script := rfl
  have hassemble : Program.assemble script.name "INC r9\nINC r9\nINC a' on line 2.\n" = .ok _ := rfl
  obtain ⟨_, hlength, _, hcode⟩ := (check_loses_no_problem script {}).1 _ hassemble
  have hone := hcode context "twice" .json rfl hscript
  exact ⟨context, script, _, hscript, rfl, hassemble, rfl, hlength, hone⟩

end Command.Context

end RegisterMachine
