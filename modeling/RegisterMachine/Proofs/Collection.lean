import Mathlib.Data.Finset.Insert
import RegisterMachine.Proofs.Reporting

/-!
What a collector keeps of the reports it is given: of each message and code the first report, in the
order of arrival, whatever the calls that the reports came in. The exit code is that of the worst
report kept. So a report that comes behind another of the same message and code has no say in it,
however bad it is.
-/

namespace RegisterMachine

namespace Report

variable {first second : Report}

/-- What tells reports apart in a collector. -/
def pair (report : Report) : String × Option Nat :=
  (report.message, report.code)

def key (report : Report) : String × Option String :=
  (report.message, report.code.map codeText)

theorem codeText_inj {m n : Nat} (h : codeText m = codeText n) : m = n := by
  rw [codeText, codeText, String.append_right_inj] at h
  rw [← Text.ofDigitChars_toString m, h, Text.ofDigitChars_toString]

theorem key_eq_iff : first.key = second.key ↔ first.pair = second.pair := by
  have hcode : first.code.map codeText = second.code.map codeText ↔ first.code = second.code :=
    Option.map_inj_right fun _ _ => codeText_inj
  rw [key, key, pair, pair, Prod.mk.injEq, Prod.mk.injEq, hcode]

end Report

namespace Collector

open Report (pair key)

variable {collector : Collector} {reports : List Report}

theorem same_iff {first second : Report} : same first second = true ↔ second.pair = first.pair := by
  rw [same, Bool.and_eq_true, beq_iff_eq, beq_iff_eq, pair, pair, Prod.mk.injEq, eq_comm,
    @eq_comm _ first.code]

theorem push_eq (collector : Collector) (report : Report) : collector.push report =
    if report.pair ∈ collector.reports.map pair then collector
    else ⟨collector.reports ++ [report]⟩ := by
  have hold : collector.reports.any (same report) = true ↔
      report.pair ∈ collector.reports.map pair := by
    simp only [List.any_eq_true, List.mem_map, same_iff]
  simp only [push, hold]

theorem extend_concat (collector : Collector) (reports : List Report) (report : Report) :
    collector.extend (reports ++ [report]) = (collector.extend reports).push report := by
  rw [extend, List.foldl_append]
  rfl

/-- Reports whose pairs are there already change nothing. -/
theorem extend_of_known (h : ∀ report ∈ reports, report.pair ∈ collector.reports.map pair) :
    collector.extend reports = collector := by
  induction reports with
  | nil => rfl
  | cons report rest ih =>
    obtain ⟨hreport, hrest⟩ := List.forall_mem_cons.mp h
    rw [extend, List.foldl_cons, push_eq, if_pos hreport]
    exact ih hrest

/-- The reports in front of which none of the same pair stands. -/
def firsts (reports : List Report) : List Report :=
  (reports.zipIdx.filter fun entry =>
    entry.1.pair ∉ (reports.take entry.2).map pair).map Prod.fst

theorem firsts_concat (reports : List Report) (report : Report) : firsts (reports ++ [report]) =
    if report.pair ∈ reports.map pair then firsts reports else firsts reports ++ [report] := by
  have hfront : ∀ entry ∈ reports.zipIdx,
      decide (entry.1.pair ∉ ((reports ++ [report]).take entry.2).map pair) =
        decide (entry.1.pair ∉ (reports.take entry.2).map pair) := by
    intro entry hentry
    have hlt : entry.2 < reports.length :=
      (List.getElem?_eq_some_iff.mp (List.mem_zipIdx_iff_getElem?.mp hentry)).1
    rw [List.take_append_of_le_length (Nat.le_of_lt hlt)]
  rw [firsts, List.zipIdx_append, List.filter_append, List.map_append, List.filter_congr hfront]
  by_cases hold : report.pair ∈ reports.map pair
  · rw [if_pos hold]
    simp [firsts, hold]
  · rw [if_neg hold]
    simp [firsts, hold]

@[simp] theorem mem_map_firsts {which : String × Option Nat} :
    which ∈ (firsts reports).map pair ↔ which ∈ reports.map pair := by
  induction reports using List.reverseRecOn with
  | nil => rfl
  | append_singleton reports report ih =>
    rw [firsts_concat, List.map_append, List.mem_append]
    by_cases hold : report.pair ∈ reports.map pair
    · rw [if_pos hold, ih]
      constructor
      · exact .inl
      · rintro (hmem | hmem)
        · exact hmem
        · rwa [List.mem_singleton.mp hmem]
    · rw [if_neg hold, List.map_append, List.mem_append, ih]

theorem nodup_firsts (reports : List Report) : ((firsts reports).map pair).Nodup := by
  induction reports using List.reverseRecOn with
  | nil => exact List.nodup_nil
  | append_singleton reports report ih =>
    rw [firsts_concat]
    by_cases hold : report.pair ∈ reports.map pair
    · rwa [if_pos hold]
    · rw [if_neg hold, List.map_append]
      apply List.nodup_append.mpr
      refine ⟨ih, List.nodup_singleton _, ?_⟩
      rintro which hwhich _ hlast rfl
      rw [List.mem_singleton.mp hlast, mem_map_firsts] at hwhich
      exact hold hwhich

theorem exists_mem_firsts {report : Report} (h : report ∈ reports) :
    ∃ kept ∈ firsts reports, kept.pair = report.pair :=
  List.mem_map.mp (mem_map_firsts.mpr (List.mem_map_of_mem h))

theorem mem_of_mem_firsts {report : Report} (h : report ∈ firsts reports) : report ∈ reports := by
  obtain ⟨entry, hentry, rfl⟩ := List.mem_map.mp h
  exact List.mem_of_getElem? (List.mem_zipIdx_iff_getElem?.mp (List.mem_filter.mp hentry).1)

/-- A new collector keeps the first report of each pair. -/
@[simp] theorem reports_extend (reports : List Report) :
    (({} : Collector).extend reports).reports = firsts reports := by
  induction reports using List.reverseRecOn with
  | nil => rfl
  | append_singleton reports report ih =>
    rw [extend_concat, push_eq, firsts_concat, ih]
    simp only [mem_map_firsts]
    split
    · exact ih
    · rfl

/-- What can be asked of a collector that changes it. -/
inductive Call where
  | push (report : Report)
  | extend (reports : List Report)

def pushed (calls : List Call) : List Report :=
  calls.flatMap fun
    | .push report => [report]
    | .extend reports => reports

def serve (collector : Collector) : Call → Collector
  | .push report => collector.push report
  | .extend reports => collector.extend reports

def serveAll (collector : Collector) (calls : List Call) : Collector :=
  calls.foldl serve collector

def collected (calls : List Call) : Collector :=
  ({} : Collector).serveAll calls

theorem serveAll_eq (collector : Collector) (calls : List Call) :
    collector.serveAll calls = collector.extend (pushed calls) := by
  induction calls generalizing collector with
  | nil => rfl
  | cons call calls ih =>
    rw [serveAll, List.foldl_cons, pushed, List.flatMap_cons, extend, List.foldl_append]
    cases call with
    | push report => exact ih (collector.push report)
    | extend reports => exact ih (collector.extend reports)

@[simp] theorem reports_collected (calls : List Call) :
    (collected calls).reports = firsts (pushed calls) := by
  simp [collected, serveAll_eq]

theorem length_eq_counts (collector : Collector) :
    collector.count .fatal + collector.count .error + collector.count .warning +
      collector.count .info = collector.reports.length := by
  unfold count
  induction collector.reports with
  | nil => rfl
  | cons report rest ih =>
    rw [List.countP_cons, List.countP_cons, List.countP_cons, List.countP_cons, List.length_cons]
    cases report.severity <;> simp <;> omega

/-- 2 if there is a fatal report, else 1 if there is an error, else 0. -/
def worst (reports : List Report) : Nat :=
  if reports.any (·.severity == .fatal) then 2
  else if reports.any (·.severity == .error) then 1
  else 0

theorem exitCode_eq_worst (collector : Collector) :
    collector.exitCode = worst collector.reports := by
  have hcount : ∀ severity, 0 < collector.count severity ↔
      collector.reports.any (·.severity == severity) = true := by
    intro severity
    rw [count, List.countP_pos_iff, List.any_eq_true]
  simp only [exitCode, worst, hcount]

theorem exitCode_collected (calls : List Call) :
    (collected calls).exitCode = worst (firsts (pushed calls)) := by
  simp [exitCode_eq_worst]

theorem worst_ne_zero_iff : worst reports ≠ 0 ↔
    ∃ report ∈ reports, report.severity = .error ∨ report.severity = .fatal := by
  unfold worst
  split
  · rename_i hfatal
    obtain ⟨report, hreport, hseverity⟩ := List.any_eq_true.mp hfatal
    exact iff_of_true (by decide) ⟨report, hreport, .inr (beq_iff_eq.mp hseverity)⟩
  · rename_i hfatal
    split
    · rename_i herror
      obtain ⟨report, hreport, hseverity⟩ := List.any_eq_true.mp herror
      exact iff_of_true (by decide) ⟨report, hreport, .inl (beq_iff_eq.mp hseverity)⟩
    · rename_i herror
      apply iff_of_false (by decide)
      rintro ⟨report, hreport, hseverity | hseverity⟩
      · exact herror (List.any_eq_true.mpr ⟨report, hreport, beq_iff_eq.mpr hseverity⟩)
      · exact hfatal (List.any_eq_true.mpr ⟨report, hreport, beq_iff_eq.mpr hseverity⟩)

theorem hasErrors_iff (collector : Collector) :
    collector.hasErrors = true ↔ collector.exitCode ≠ 0 := by
  rw [exitCode_eq_worst, worst_ne_zero_iff, hasErrors]
  simp only [List.any_eq_true, Bool.or_eq_true, beq_iff_eq]

theorem worst_congr {others : List Report}
    (h : ∀ severity, (∃ report ∈ reports, report.severity = severity) ↔
      ∃ report ∈ others, report.severity = severity) : worst reports = worst others := by
  have hany : ∀ severity : Severity, reports.any (·.severity == severity) = true ↔
      others.any (·.severity == severity) = true := by
    intro severity
    simpa only [List.any_eq_true, beq_iff_eq] using h severity
  simp only [worst, hany]

theorem worst_mono {others : List Report} (h : ∀ report ∈ reports, report ∈ others) :
    worst reports ≤ worst others := by
  have hany : ∀ severity : Severity, reports.any (·.severity == severity) = true →
      others.any (·.severity == severity) = true := by
    intro severity hold
    obtain ⟨report, hreport, hseverity⟩ := List.any_eq_true.mp hold
    exact List.any_eq_true.mpr ⟨report, h report hreport, hseverity⟩
  have hfatal := hany .fatal
  have herror := hany .error
  unfold worst
  split
  · rw [if_pos (hfatal ‹_›)]
  · split
    · rw [if_pos (herror ‹_›)]
      split <;> omega
    · omega

/-- Reports of the same pair are of the same severity. -/
def Consistent (reports : List Report) : Prop :=
  ∀ first ∈ reports, ∀ second ∈ reports, first.pair = second.pair →
    first.severity = second.severity

/-- Then nothing is lost with the reports that are not kept. -/
theorem Consistent.worst_firsts (h : Consistent reports) :
    worst (firsts reports) = worst reports := by
  apply worst_congr
  intro severity
  constructor
  · rintro ⟨report, hreport, hseverity⟩
    exact ⟨report, mem_of_mem_firsts hreport, hseverity⟩
  · rintro ⟨report, hreport, rfl⟩
    obtain ⟨kept, hkept, hpair⟩ := exists_mem_firsts hreport
    exact ⟨kept, hkept, h kept (mem_of_mem_firsts hkept) report hreport hpair⟩

/-- The exit code is that of the worst report among the first ones of each pair. It never overstates
what was pushed, and if the pair settles the severity it states the worst of all that was pushed,
in whatever order. -/
theorem exitCode_worst_first (calls : List Call) :
    (collected calls).exitCode = worst (firsts (pushed calls)) ∧
    (collected calls).exitCode ≤ worst (pushed calls) ∧
    (Consistent (pushed calls) →
      (collected calls).exitCode = worst (pushed calls) ∧
      ∀ others, (pushed others).Perm (pushed calls) →
        (collected others).exitCode = (collected calls).exitCode) := by
  simp only [exitCode_collected]
  refine ⟨trivial, worst_mono fun _ => mem_of_mem_firsts, ?_⟩
  intro hconsistent
  refine ⟨hconsistent.worst_firsts, ?_⟩
  intro others hperm
  have hothers : Consistent (pushed others) := by
    intro first hfirst second hsecond
    exact hconsistent first (hperm.mem_iff.mp hfirst) second (hperm.mem_iff.mp hsecond)
  rw [hothers.worst_firsts, hconsistent.worst_firsts]
  apply worst_congr
  intro severity
  simp only [hperm.mem_iff]

/-- A warning, an error and the warning again, in one call and in two that begin with the error. -/
theorem exitCode_worst_first_reordered : ∃ warning error again : Report,
    warning.severity = .warning ∧ error.severity = .error ∧ error.message = warning.message ∧
    again.pair = warning.pair ∧ again.token ≠ warning.token ∧
    (collected [.extend [warning, error, again]]).exitCode = 1 ∧
    (collected [.push error, .extend [warning, again]]).exitCode = 1 := by
  let warning : Report := { message := "a", severity := .warning, code := some 1 }
  let error : Report := { message := "a", severity := .error }
  let again : Report := { message := "a", severity := .warning, code := some 1, token := some "t" }
  have hconsistent : Consistent (pushed [.extend [warning, error, again]]) := by
    intro first hfirst second hsecond hpair
    have hcode : ∀ report ∈ [warning, error, again],
        report.severity = if report.code = none then .error else .warning := by
      simp [warning, error, again]
    rw [hcode first hfirst, hcode second hsecond, (Prod.mk.inj hpair).2]
  have hperm : (pushed [.push error, .extend [warning, again]]).Perm
      (pushed [.extend [warning, error, again]]) := List.Perm.swap ..
  obtain ⟨hworst, horder⟩ :=
    (exitCode_worst_first [.extend [warning, error, again]]).2.2 hconsistent
  exact ⟨warning, error, again, rfl, rfl, rfl, rfl, by simp [warning, again], hworst,
    (horder _ hperm).trans hworst⟩

/-- An error behind a warning of the same message and code goes unseen; in front of it, it does
not. -/
theorem exitCode_misses_later_error :
    worst (pushed [.push { message := "m", severity := .warning },
      .push { message := "m", severity := .error }]) = 1 ∧
    (collected [.push { message := "m", severity := .warning },
      .push { message := "m", severity := .error }]).exitCode = 0 ∧
    (collected [.push { message := "m", severity := .error },
      .push { message := "m", severity := .warning }]).exitCode = 1 :=
  ⟨rfl, rfl, rfl⟩

/-- A collector that looks reports up by their keys in a set it keeps beside them. -/
structure Indexed extends Collector where
  seen : Finset (String × Option String)
  mem_seen : ∀ which, which ∈ seen ↔ which ∈ reports.map key

namespace Indexed

def new : Indexed :=
  ⟨{}, ∅, by simp⟩

/-- The set holds nothing that the reports do not tell. -/
theorem eq_of_toCollector_eq {first second : Indexed}
    (h : first.toCollector = second.toCollector) : first = second := by
  obtain ⟨collector, seen, hseen⟩ := first
  obtain ⟨other, others, hothers⟩ := second
  cases h
  obtain rfl : seen = others := by
    apply Finset.ext
    intro which
    exact (hseen which).trans (hothers which).symm
  rfl

def push (indexed : Indexed) (report : Report) : Indexed :=
  if report.key ∈ indexed.seen then indexed
  else
    { reports := indexed.reports ++ [report]
      seen := insert report.key indexed.seen
      mem_seen := by simp [indexed.mem_seen, or_comm] }

def extend (indexed : Indexed) (reports : List Report) : Indexed :=
  reports.foldl push indexed

@[simp] theorem toCollector_push (indexed : Indexed) (report : Report) :
    (indexed.push report).toCollector = indexed.toCollector.push report := by
  have hold : report.key ∈ indexed.seen ↔ report.pair ∈ indexed.reports.map pair := by
    simp only [indexed.mem_seen, List.mem_map, Report.key_eq_iff]
  rw [push, push_eq]
  simp only [hold]
  split <;> rfl

/-- The set only makes the collector faster. -/
@[simp] theorem toCollector_extend (indexed : Indexed) (reports : List Report) :
    (indexed.extend reports).toCollector = indexed.toCollector.extend reports := by
  induction reports generalizing indexed with
  | nil => rfl
  | cons report rest ih =>
    rw [extend, List.foldl_cons, Collector.extend, List.foldl_cons, ← toCollector_push]
    exact ih (indexed.push report)

end Indexed

/-- A collector keeps the first of the reports of each pair that were pushed, in their order, and
counts each of them once. It has errors exactly if its exit code is not 0, and what was pushed once
can be pushed again without effect. With a set of keys beside them the reports are the same, and the
set holds the keys of all that was pushed. -/
theorem keeps_first_of_each_pair (calls : List Call) :
    (collected calls).reports = firsts (pushed calls) ∧
    ((collected calls).reports.map pair).Nodup ∧
    (∀ report ∈ pushed calls, ∃ kept ∈ (collected calls).reports, kept.pair = report.pair) ∧
    ((collected calls).count .fatal + (collected calls).count .error +
      (collected calls).count .warning + (collected calls).count .info =
        (collected calls).reports.length) ∧
    ((collected calls).hasErrors = true ↔ (collected calls).exitCode ≠ 0) ∧
    (∀ again, (∀ report ∈ pushed again, report ∈ pushed calls) →
      (collected calls).serveAll again = collected calls ∧
      (Indexed.new.extend (pushed calls)).extend (pushed again) =
        Indexed.new.extend (pushed calls)) ∧
    (Indexed.new.extend (pushed calls)).toCollector = collected calls ∧
    ∀ which, which ∈ (Indexed.new.extend (pushed calls)).seen ↔
      ∃ report ∈ pushed calls, report.key = which := by
  have hindexed : (Indexed.new.extend (pushed calls)).toCollector = collected calls := by
    rw [Indexed.toCollector_extend, collected, serveAll_eq]
    rfl
  refine ⟨reports_collected calls, ?_, ?_, length_eq_counts _, hasErrors_iff _, ?_, hindexed, ?_⟩
  · simpa using nodup_firsts (pushed calls)
  · simpa using fun report => exists_mem_firsts
  · intro again hagain
    have hknown : (collected calls).extend (pushed again) = collected calls := by
      apply extend_of_known
      intro report hreport
      simpa using List.mem_map_of_mem (hagain report hreport)
    refine ⟨(serveAll_eq _ _).trans hknown, ?_⟩
    apply Indexed.eq_of_toCollector_eq
    rw [Indexed.toCollector_extend, hindexed, hknown]
  · intro which
    rw [Indexed.mem_seen, hindexed, reports_collected, List.mem_map]
    constructor
    · rintro ⟨kept, hkept, hkey⟩
      exact ⟨kept, mem_of_mem_firsts hkept, hkey⟩
    · rintro ⟨report, hreport, rfl⟩
      obtain ⟨kept, hkept, hpair⟩ := exists_mem_firsts hreport
      exact ⟨kept, hkept, Report.key_eq_iff.mpr hpair⟩

/-- A warning, an error with the same message, and a note that has a code as well: the error is
dropped, also when it comes again. -/
theorem keeps_first_of_each_pair_repeated : ∃ warning error note : Report,
    warning.severity = .warning ∧ error.severity = .error ∧ error.pair = warning.pair ∧
    note.message = warning.message ∧ note.code = some 7 ∧
    (collected [.push warning, .extend [error, note]]).reports = [warning, note] ∧
    (collected [.push warning, .extend [error, note]]).serveAll [.push error] =
      collected [.push warning, .extend [error, note]] := by
  let warning : Report := { message := "m", severity := .warning }
  let error : Report := { message := "m", severity := .error, token := some "t" }
  let note : Report := { message := "m", severity := .info, code := some 7 }
  obtain ⟨hreports, _, _, _, _, hagain, _⟩ :=
    keeps_first_of_each_pair [.push warning, .extend [error, note]]
  have hpushed : ∀ report ∈ pushed [.push error],
      report ∈ pushed [.push warning, .extend [error, note]] := by
    intro report hreport
    rw [List.mem_singleton.mp hreport]
    exact .tail _ (.head _)
  exact ⟨warning, error, note, rfl, rfl, rfl, rfl, rfl, hreports.trans rfl,
    (hagain _ hpushed).1⟩

end Collector

end RegisterMachine
