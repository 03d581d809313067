import RegisterMachine.Proofs.Placement
import RegisterMachine.Proofs.Rendering

/-!
Where diagnostics lead a reader. The lines of a source are cut once to assemble it and once to show
one of them, and lose their carriage returns in different ways. Still every failure of a source, of
its check and of an engine that executes it points at a character of the line it is about, and the
report shows that line.
-/

namespace RegisterMachine

namespace Text

@[simp] theorem dropReturns_dropReturn (line : List Char) :
    dropReturns (dropReturn line) = dropReturns line := by
  unfold dropReturn
  split
  · rename_i hlast
    obtain ⟨front, rfl⟩ := List.getLast?_eq_some_iff.mp hlast
    simp [dropReturns]
  · rfl

theorem FirstSolid.le_length {text : List Char} {column : Nat} (h : FirstSolid text column) :
    1 ≤ column ∧ column ≤ text.length := by
  obtain ⟨blanks, rest, rfl, _, ⟨c, hhead, _⟩, rfl⟩ := h
  have hpos : 0 < rest.length := List.length_pos_of_mem (List.mem_of_mem_head? hhead)
  rw [List.length_append]
  omega

end Text

/-- A token is placed at a character of its line, if only the line has one that is not blank. -/
theorem Location.column_ofToken_le {raw : String} {c : Char} (hmem : c ∈ raw.toList)
    (hsolid : Text.isBlank c = false) (file : String) (line : Nat) (token : Option String) :
    (ofToken file line raw token).column ≤ raw.toList.length := by
  unfold ofToken
  simp only
  cases hfound : (token.filter (!·.isEmpty)).bind (Text.indexOf? ·.toList raw.toList) with
  | some index =>
    obtain ⟨text, htext, hindex⟩ := Option.bind_eq_some_iff.mp hfound
    have hne : text.toList ≠ [] := by simpa using (Option.filter_eq_some_iff.mp htext).2
    exact (Text.firstOccurs_of_indexOf? hindex).1.lt_length hne
  | none =>
    obtain ⟨index, hindex⟩ : ∃ index, raw.toList.findIdx? (!Text.isBlank ·) = some index := by
      apply Option.isSome_iff_exists.mp
      rw [List.findIdx?_isSome, List.any_eq_true]
      exact ⟨c, hmem, by rw [hsolid]; rfl⟩
    rw [hindex]
    exact (List.findIdx?_eq_some_iff_findIdx_eq.mp hindex).1

theorem Source.exists_solid_of_action {raw : List Char} {action : Action}
    (h : (Statement.ofLine raw).action = some action) : ∃ c ∈ raw, Text.isBlank c = false := by
  by_cases hempty : Text.trim (uncommented .outside raw) = []
  · unfold Statement.ofLine at h
    rw [hempty] at h
    cases h
  · obtain ⟨c, hhead, hc⟩ := Text.startsSolid_trim hempty
    exact ⟨c, mem_of_mem_uncommented (mem_of_mem_trim (List.mem_of_mem_head? hhead)), hc⟩

namespace Report

/-- The report shows this text as the line of the location, with the carets under it. -/
def Shows (report : Report) (source : String) (location : Location) (line : List Char) : Prop :=
  ∀ coloured, report.render coloured source =
    report.heading coloured location ++ (gutter location.line ++ String.ofList line) ++ "\n" ++
      Style.paint coloured [.green] (caretLine location report.token) ++ "\n" ++
      report.hint coloured

variable {source : String} {location : Location} {raw : List Char}

/-- A report shows the line that the assembler has read, but for carriage returns at its end. -/
theorem shows_of_lineAt? (report : Report) (hlocation : report.location = some location)
    (hraw : Text.lineAt? source location.line = some raw) :
    report.Shows source location (Text.dropReturns raw) := by
  intro coloured
  cases hnumber : location.line with
  | zero =>
    rw [hnumber] at hraw
    cases hraw
  | succ index =>
    rw [hnumber] at hraw
    obtain ⟨line, hline, rfl⟩ := Option.map_eq_some_iff.mp hraw
    have hsource : (Text.lines source.toList)[location.line - 1]? = some line := by
      rw [hnumber]
      exact hline
    rw [report.render_eq hlocation hsource coloured, snippetLine_eq, hnumber,
      Text.dropReturns_dropReturn]

end Report

/-- The failure points at a character of this line of the source, and its report shows the line
without carriage returns at the end. -/
structure Failure.PointsAt (failure : Failure) (name source : String) (location : Location)
    (raw : List Char) : Prop where
  located : failure.location? = some location
  file : location.file = name
  line_pos : 1 ≤ location.line
  line_le : location.line ≤ (Text.lines source.toList).length
  read : Text.lineAt? source location.line = some raw
  column_pos : 1 ≤ location.column
  column_le : location.column ≤ raw.length
  shown : (Report.ofFailure failure).Shows source location (Text.dropReturns raw)

theorem Failure.pointsAt_of_lineAt? {failure : Failure} {name source : String}
    {location : Location} {raw : List Char} (hlocation : failure.location? = some location)
    (hfile : location.file = name) (hraw : Text.lineAt? source location.line = some raw)
    (hcolumn : 1 ≤ location.column ∧ location.column ≤ raw.length) :
    failure.PointsAt name source location raw where
  located := hlocation
  file := hfile
  line_pos := by
    apply Nat.one_le_iff_ne_zero.mpr
    intro hzero
    rw [hzero] at hraw
    cases hraw
  line_le := Text.le_of_lineAt? hraw
  read := hraw
  column_pos := hcolumn.1
  column_le := hcolumn.2
  shown := (Report.ofFailure failure).shows_of_lineAt? hlocation hraw

namespace Engine

variable {engine after : Engine} {failure : Failure} {location : Location}

/-- The instruction that a failed step is about: the last one if control has left the program, and
else the one to execute. -/
def Blames (engine : Engine) (instruction : Instruction) : Failure → Prop
  | .pcOutOfBounds _ _ _ =>
    engine.current? = none ∧ engine.program.instructions.back? = some instruction
  | _ => engine.current? = some instruction

/-- A failed step with a place has it from the instruction that it is about. -/
theorem StepRule.exists_blames (h : engine.StepRule (.error failure) after)
    (hlocation : failure.location? = some location) :
    ∃ instruction token, engine.Blames instruction failure ∧
      instruction ∈ engine.program.instructions.toList ∧
      location = instruction.locate engine.program.name token := by
  cases h with
  | noProgram | stray => cases hlocation
  | pastEnd _ _ hcurrent =>
    obtain ⟨last, hlast, rfl⟩ := Option.map_eq_some_iff.mp hlocation
    exact ⟨last, none, ⟨hcurrent, hlast⟩, (Array.mem_of_back? hlast).val, rfl⟩
  | @undecodable instruction _ _ hcurrent hdecode =>
    have hmem := mem_of_current? hcurrent
    rcases Instruction.decode_eq_error hdecode with rfl | ⟨_, token, _, _, _, rfl⟩
    · cases hlocation
      exact ⟨instruction, some instruction.opcode, hcurrent, hmem, rfl⟩
    · cases hlocation
      exact ⟨instruction, token, hcurrent, hmem, rfl⟩
  | @unresolved instruction _ _ label hdecodes =>
    cases hlocation
    exact ⟨instruction, some label, hdecodes.current, mem_of_current? hdecodes.current, rfl⟩
  | @capped instruction _ _ _ _ _ hperforms =>
    cases hlocation
    exact ⟨instruction, none, hperforms.current, mem_of_current? hperforms.current, rfl⟩

end Engine

namespace Program

variable {program : Program} {name source : String} {failure : Failure} {location : Location}

/-- Whatever an instruction of an assembled source locates lies in the line of the instruction. -/
theorem pointsAt_of_locate (h : assemble name source = .ok program) {instruction : Instruction}
    (hmem : instruction ∈ program.instructions.toList) {token : Option String}
    (hlocation : failure.location? = some (instruction.locate program.name token)) :
    failure.PointsAt name source (instruction.locate program.name token)
      instruction.raw.toList := by
  obtain ⟨c, hc, hsolid⟩ := Source.exists_solid_of_action (action_of_assemble h instruction hmem)
  apply Failure.pointsAt_of_lineAt? hlocation
  · exact name_of_assemble h
  · exact (recorded_of_assemble h).raw instruction hmem
  · exact ⟨Nat.succ_pos _, Location.column_ofToken_le hc hsolid _ _ _⟩

theorem pointsAt_of_step (h : assemble name source = .ok program) {engine : Engine}
    (hprogram : engine.program = program) (hstep : engine.step.1 = .error failure)
    (hlocation : failure.location? = some location) :
    ∃ instruction ∈ program.instructions.toList, engine.Blames instruction failure ∧
      location.line = instruction.line ∧
      failure.PointsAt name source location instruction.raw.toList := by
  obtain ⟨instruction, token, hblames, hmem, rfl⟩ :=
    (Engine.stepRule_of_error hstep).exists_blames hlocation
  rw [hprogram] at hmem hlocation ⊢
  exact ⟨instruction, hmem, hblames, rfl, pointsAt_of_locate h hmem hlocation⟩

/-- A failure to assemble points into the line that repeats a label, a problem of the check into the
line of its instruction, and a failed step into the line of the executed instruction, or into that
of the last one if control has left the program. A run fails as one of its steps does. -/
theorem diagnostics_point_into_source (name source : String) :
    (∀ duplicate, assemble name source = .error duplicate →
      Repeats source duplicate ∧ ∃ raw,
        (Failure.duplicateLabel duplicate).PointsAt name source duplicate.location raw) ∧
    ∀ program, assemble name source = .ok program →
      (∀ config, ∀ failure ∈ program.check config, ∃ instruction ∈ program.instructions.toList,
        ∃ location, instruction.problem? program config = some failure ∧
          location.line = instruction.line ∧
          failure.PointsAt name source location instruction.raw.toList) ∧
      ∀ engine : Engine, engine.program = program → ∀ failure location,
        failure.location? = some location →
        (engine.step.1 = .error failure → ∃ instruction ∈ program.instructions.toList,
          engine.Blames instruction failure ∧ location.line = instruction.line ∧
          failure.PointsAt name source location instruction.raw.toList) ∧
        (engine.run.1 = .error failure → ∃ count, ∃ instruction ∈ program.instructions.toList,
          (engine.stepped count).step.1 = .error failure ∧
          (engine.stepped count).Blames instruction failure ∧ location.line = instruction.line ∧
          failure.PointsAt name source location instruction.raw.toList) := by
  refine ⟨?_, fun program h => ⟨?_, ?_⟩⟩
  · intro duplicate h
    obtain ⟨hfile, hrepeats⟩ := repeats_of_assemble h
    obtain ⟨raw, hraw, hfirst⟩ := hrepeats.column
    exact ⟨hrepeats, raw, Failure.pointsAt_of_lineAt? rfl hfile hraw hfirst.le_length⟩
  · intro config failure hfailure
    obtain ⟨instruction, hmem, hproblem⟩ := List.mem_filterMap.mp hfailure
    obtain ⟨token, hlocation⟩ := Instruction.locate_of_problem? hproblem
    exact ⟨instruction, hmem, _, hproblem, rfl, pointsAt_of_locate h hmem hlocation⟩
  · intro engine hprogram failure location hlocation
    constructor
    · intro hstep
      exact pointsAt_of_step h hprogram hstep hlocation
    · intro hrun
      obtain ⟨count, _, hstep⟩ := Engine.run_eq_error_iff.mp hrun
      obtain ⟨instruction, hmem, hpoints⟩ :=
        pointsAt_of_step h ((engine.stepped_program count).trans hprogram) hstep hlocation
      exact ⟨count, instruction, hmem, hstep, hpoints⟩

/-- An opcode that stands on its line in lower case, in front of three carriage returns: one ends
the line, one is dropped to read it, and the last is dropped to show it. Then a label that is
repeated on a last line without end. -/
theorem diagnostics_point_behind_returns :
    (∃ program failure location, assemble "p" "INC r0\r\n\tfly r0\r\r\r\n" = .ok program ∧
      ((Engine.new {}).load "p" "INC r0\r\n\tfly r0\r\r\r\n").2.run.1 = .error failure ∧
      failure.PointsAt "p" "INC r0\r\n\tfly r0\r\r\r\n" location "\tfly r0\r".toList ∧
      location = ⟨"p", 2, 2⟩ ∧ failure ∈ program.check {} ∧
      (Report.ofFailure failure).render false "INC r0\r\n\tfly r0\r\r\r\n" =
        "[ERROR] Unknown opcode 'FLY' on line 2.\n --> p:2:2\n    2 | \tfly r0\n      |  ^^^\n") ∧
    ∃ duplicate, assemble "p" "a:\n a: HALT\r" = .error duplicate ∧
      Repeats "a:\n a: HALT\r" duplicate ∧ duplicate.location = ⟨"p", 2, 2⟩ := by
  have hassemble : assemble "p" "INC r0\r\n\tfly r0\r\r\r\n" = .ok
      ⟨"p", #[⟨"INC", ["r0"], 1, "INC r0"⟩, ⟨"FLY", ["r0"], 2, "\tfly r0\r"⟩], []⟩ := rfl
  have hrun : ((Engine.new {}).load "p" "INC r0\r\n\tfly r0\r\r\r\n").2.run.1 =
      .error (.unknownOpcode "FLY" ⟨"p", 2, 2⟩) := rfl
  have hrepeated : assemble "p" "a:\n a: HALT\r" = .error ⟨"a", 1, ⟨"p", 2, 2⟩⟩ := rfl
  have hpoints := (diagnostics_point_into_source "p" "INC r0\r\n\tfly r0\r\r\r\n").2 _ hassemble
  obtain ⟨_, instruction, hmem, _, _, hline, hplace⟩ :=
    (hpoints.2 ((Engine.new {}).load "p" "INC r0\r\n\tfly r0\r\r\r\n").2 rfl _ _ rfl).2 hrun
  obtain rfl : instruction = ⟨"FLY", ["r0"], 2, "\tfly r0\r"⟩ := by
    rcases List.mem_cons.mp hmem with rfl | hmem
    · cases hline
    · exact List.mem_singleton.mp hmem
  refine ⟨⟨_, _, _, hassemble, hrun, hplace, rfl, List.mem_singleton_self _, ?_⟩, _, hrepeated,
    ((diagnostics_point_into_source "p" _).1 _ hrepeated).1, rfl⟩
  exact hplace.shown false

end Program

end RegisterMachine
