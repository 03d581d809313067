import RegisterMachine.Program.Inspection
import RegisterMachine.Proofs.Outline
import RegisterMachine.Proofs.Statement

/-!
Printing a program. The printed form names the labels of each place on lines of their own, in front
of the instruction at that place. Assembling it gives the program again, apart from line numbers and
raw lines: what was trimmed, dropped or stripped from the source does not come back.
-/

namespace RegisterMachine

open Source (Statement Action)

namespace Program

variable {program : Program}

/-- The lines of some instructions, the first of which stands at the given place. The labels behind
the last instruction come last. -/
def printedFrom (program : Program) : Nat → List Instruction → List String
  | place, [] => program.labelLines place
  | place, instruction :: rest => program.labelLines place ++
      instruction.text :: program.printedFrom (place + 1) rest

def printed (program : Program) : String :=
  Text.written (program.printedFrom 0 program.instructions.toList)

/-- What the printed lines say. -/
def saidFrom (program : Program) : Nat → List Instruction → List Statement
  | place, [] => (program.labelsAt place).map (⟨some ·, none⟩)
  | place, instruction :: rest => (program.labelsAt place).map (⟨some ·, none⟩) ++
      ⟨none, some ⟨instruction.opcode, instruction.operands⟩⟩ :: program.saidFrom (place + 1) rest

@[simp] theorem mem_labelsAt_iff {name : String} {place : Nat} :
    name ∈ program.labelsAt place ↔ (name, place) ∈ program.places := by
  simp only [labelsAt, sortNames, List.mem_mergeSort, List.mem_map, List.mem_filter, places,
    beq_iff_eq, Prod.mk.injEq, and_assoc]
  constructor
  · rintro ⟨label, hlabel, htarget, hname⟩
    exact ⟨label, hlabel, hname, htarget⟩
  · rintro ⟨label, hlabel, hname, htarget⟩
    exact ⟨label, hlabel, htarget, hname⟩

theorem nodup_labelsAt (h : (program.places.map Prod.fst).Nodup) (place : Nat) :
    (program.labelsAt place).Nodup := by
  unfold labelsAt sortNames
  rw [(List.mergeSort_perm _ _).nodup_iff]
  have hnames : program.places.map Prod.fst = program.labels.map (·.name) := by
    rw [places, List.map_map]
    rfl
  rw [hnames] at h
  exact h.sublist (List.filter_sublist.map _)

section
variable {place target : Nat} {instructions : List Instruction} {name : String}

theorem placesFrom_labels (count : Nat) (names : List String) (rest : List Statement) :
    placesFrom count (names.map (⟨some ·, none⟩) ++ rest) =
      names.map (·, count) ++ placesFrom count rest := by
  induction names with
  | nil => rfl
  | cons name names ih => simp [placesFrom, ih]

theorem placesFrom_saidFrom_nil (program : Program) (place : Nat) :
    placesFrom place (program.saidFrom place []) = (program.labelsAt place).map (·, place) := by
  rw [saidFrom, ← List.append_nil (List.map _ _), placesFrom_labels]
  exact List.append_nil _

theorem placesFrom_saidFrom_cons (program : Program) (place : Nat) (instruction : Instruction)
    (rest : List Instruction) :
    placesFrom place (program.saidFrom place (instruction :: rest)) =
      (program.labelsAt place).map (·, place) ++
        placesFrom (place + 1) (program.saidFrom (place + 1) rest) := by
  rw [saidFrom, placesFrom_labels]
  rfl

@[simp] theorem filterMap_action_labels (names : List String) :
    (names.map fun name => (⟨some name, none⟩ : Statement)).filterMap (·.action) = [] := by
  induction names with
  | nil => rfl
  | cons name names ih => exact ih

theorem actions_saidFrom (program : Program) (place : Nat) (instructions : List Instruction) :
    (program.saidFrom place instructions).filterMap (·.action) =
      instructions.map fun instruction => ⟨instruction.opcode, instruction.operands⟩ := by
  induction instructions generalizing place with
  | nil => exact filterMap_action_labels _
  | cons instruction rest ih =>
    rw [saidFrom, List.filterMap_append, filterMap_action_labels, List.filterMap_cons, ih]
    rfl

theorem mem_labels_iff : (name, target) ∈ (program.labelsAt place).map (·, place) ↔
    target = place ∧ (name, target) ∈ program.places := by
  simp only [List.mem_map, Prod.mk.injEq, mem_labelsAt_iff]
  constructor
  · rintro ⟨_, hmem, rfl, rfl⟩
    exact ⟨rfl, hmem⟩
  · rintro ⟨rfl, hmem⟩
    exact ⟨name, hmem, rfl, rfl⟩

/-- The printed form has the labels of the places that it goes through. -/
theorem mem_placesFrom_saidFrom :
    (name, target) ∈ placesFrom place (program.saidFrom place instructions) ↔
      (place ≤ target ∧ target ≤ place + instructions.length) ∧
        (name, target) ∈ program.places := by
  induction instructions generalizing place with
  | nil =>
    rw [placesFrom_saidFrom_nil, mem_labels_iff, List.length_nil, Nat.add_zero, Nat.le_antisymm_iff,
      and_comm (a := target ≤ place)]
  | cons instruction rest ih =>
    rw [placesFrom_saidFrom_cons, List.mem_append, mem_labels_iff, ih, List.length_cons]
    constructor
    · rintro (⟨rfl, hmem⟩ | ⟨hrange, hmem⟩)
      · exact ⟨by omega, hmem⟩
      · exact ⟨by omega, hmem⟩
    · rintro ⟨hrange, hmem⟩
      by_cases heq : target = place
      · exact .inl ⟨heq, hmem⟩
      · exact .inr ⟨by omega, hmem⟩

theorem nodup_placesFrom_saidFrom (h : (program.places.map Prod.fst).Nodup) (place : Nat)
    (instructions : List Instruction) :
    ((placesFrom place (program.saidFrom place instructions)).map Prod.fst).Nodup := by
  have hhere : ∀ place, (((program.labelsAt place).map (·, place)).map Prod.fst).Nodup := by
    intro place
    rw [List.map_map]
    simpa [Function.comp_def] using nodup_labelsAt h place
  induction instructions generalizing place with
  | nil =>
    rw [placesFrom_saidFrom_nil]
    exact hhere place
  | cons instruction rest ih =>
    rw [placesFrom_saidFrom_cons, List.map_append, List.nodup_append]
    refine ⟨hhere place, ih (place + 1), ?_⟩
    -- A name at two places would be two labels of one name.
    rintro name hname _ hlater rfl
    obtain ⟨⟨_, first⟩, hfirst, rfl⟩ := List.mem_map.mp hname
    obtain ⟨⟨_, second⟩, hsecond, hsame⟩ := List.mem_map.mp hlater
    obtain ⟨rfl, hfirstPlace⟩ := mem_labels_iff.mp hfirst
    obtain ⟨hrange, hsecondPlace⟩ := mem_placesFrom_saidFrom.mp hsecond
    simp only at hsame
    rw [hsame] at hsecondPlace
    have heq := eq_of_nodup_fst h hfirstPlace hsecondPlace
    omega

end

/-- The labels and the operands of a program are such that they can be written and read again. -/
structure Printable (program : Program) : Prop where
  names : ∀ label ∈ program.places, Source.isIdentifier label.1.toList = true
  operands : ∀ action ∈ program.actions, Source.isIdentifier action.opcode.toList = true →
    Source.Writable (action.operands.map String.toList)

theorem not_mem_dropReturn {raw : List Char} (h : '\n' ∉ raw) : '\n' ∉ Text.dropReturn raw := by
  unfold Text.dropReturn
  split
  · exact fun hfeed => h (List.dropLast_subset raw hfeed)
  · exact h

theorem Printable.extended (h : program.Printable) {raw : List Char} (hraw : '\n' ∉ raw)
    (line : Nat) (text : String) :
    (program.extended line text (Statement.ofLine raw)).Printable where
  names := by
    rw [places_extended]
    intro label hlabel
    rcases List.mem_append.mp hlabel with hlabel | hlabel
    · exact h.names label hlabel
    · obtain ⟨name, hname, rfl⟩ := List.mem_map.mp hlabel
      exact Source.isIdentifier_of_ofLine (Option.mem_toList.mp hname)
  operands := by
    rw [actions_extended]
    intro action haction
    rcases List.mem_append.mp haction with haction | haction
    · exact h.operands action haction
    · exact Source.writable_of_ofLine hraw (Option.mem_toList.mp haction)

theorem printable_of_assemble {name source : String} (h : assemble name source = .ok program) :
    program.Printable := by
  have hempty : (empty name).Printable := by
    constructor
    · intro label hlabel
      cases hlabel
    · intro action haction
      cases haction
  refine addLines_induction ?_ hempty h
  intro program line raw hraw hprogram _
  exact hprogram.extended (not_mem_dropReturn (Text.not_mem_of_mem_lines hraw)) line _

theorem writable_label {name : String} (h : Source.isIdentifier name.toList = true) :
    Text.Writable (name ++ ":") where
  oneLine := by
    rw [String.toList_append, List.mem_append]
    rintro (hfeed | hfeed)
    · exact Source.oneLine_of_isIdentifier h hfeed
    · revert hfeed
      decide
  endsSolid := by
    have hcolon : Text.EndsSolid ":".toList := ⟨':', rfl, rfl⟩
    rw [String.toList_append]
    exact hcolon.append _

theorem ofLine_label_line {name : String} (h : Source.isIdentifier name.toList = true) :
    Statement.ofLine (name ++ ":").toList = ⟨some name, none⟩ := by
  rw [String.toList_append]
  exact (Source.ofLine_label h).trans (by rw [String.ofList_toList])

section
variable {instruction : Instruction} {opcode : Opcode}

theorem writable_text (hopcode : instruction.opcode = opcode.mnemonic)
    (h : Source.Writable (instruction.operands.map String.toList)) :
    Text.Writable instruction.text where
  oneLine := by
    rw [Instruction.toList_text, hopcode, List.mem_append]
    rintro (hfeed | hfeed)
    · exact Source.oneLine_of_isIdentifier opcode.isIdentifier_mnemonic hfeed
    · exact h.oneLine_operandText hfeed
  endsSolid := by
    rw [Instruction.toList_text, hopcode]
    exact h.endsSolid_line opcode.isIdentifier_mnemonic

theorem ofLine_text (hopcode : instruction.opcode = opcode.mnemonic)
    (h : Source.Writable (instruction.operands.map String.toList)) :
    Statement.ofLine instruction.text.toList =
      ⟨none, some ⟨instruction.opcode, instruction.operands⟩⟩ := by
  rw [Instruction.toList_text, hopcode, Source.ofLine_action opcode.isIdentifier_mnemonic
    opcode.uppercase_mnemonic h, String.ofList_toList, Source.map_ofList_toList]

end

/-- Every printed line can be read again, and says what it was printed for. -/
theorem Printable.printedFrom (h : program.Printable) (place : Nat)
    {instructions : List Instruction}
    (hopcodes : ∀ instruction ∈ instructions,
      ∃ opcode : Opcode, instruction.opcode = opcode.mnemonic)
    (hoperands : ∀ instruction ∈ instructions,
      Source.Writable (instruction.operands.map String.toList)) :
    (∀ line ∈ program.printedFrom place instructions, Text.Writable line) ∧
      (program.printedFrom place instructions).map (Statement.ofLine ·.toList) =
        program.saidFrom place instructions := by
  have hname : ∀ place, ∀ name ∈ program.labelsAt place, Source.isIdentifier name.toList = true :=
    fun place name hmem => h.names _ (mem_labelsAt_iff.mp hmem)
  have hlabels : ∀ place, ∀ line ∈ program.labelLines place, Text.Writable line := by
    intro place line hline
    obtain ⟨name, hmem, rfl⟩ := List.mem_map.mp hline
    exact writable_label (hname place name hmem)
  have hsaid : ∀ place, (program.labelLines place).map (Statement.ofLine ·.toList) =
      (program.labelsAt place).map (⟨some ·, none⟩) := by
    intro place
    rw [labelLines, List.map_map]
    apply List.map_congr_left
    intro name hmem
    exact ofLine_label_line (hname place name hmem)
  induction instructions generalizing place with
  | nil => exact ⟨hlabels place, hsaid place⟩
  | cons instruction rest ih =>
    obtain ⟨⟨opcode, hopcode⟩, hopcodesRest⟩ := List.forall_mem_cons.mp hopcodes
    obtain ⟨hwritable, hoperandsRest⟩ := List.forall_mem_cons.mp hoperands
    obtain ⟨hrest, hrestSaid⟩ := ih (place + 1) hopcodesRest hoperandsRest
    constructor
    · intro line hline
      rcases List.mem_append.mp hline with hline | hline
      · exact hlabels place line hline
      · rcases List.mem_cons.mp hline with rfl | hline
        · exact writable_text hopcode hwritable
        · exact hrest line hline
    · rw [Program.printedFrom, List.map_append, hsaid, List.map_cons,
        ofLine_text hopcode hwritable, hrestSaid]
      rfl

theorem map_instructions_eq {first second : Program} (h : first.actions = second.actions) :
    first.instructions.map (fun instruction => (instruction.opcode, instruction.operands)) =
      second.instructions.map fun instruction => (instruction.opcode, instruction.operands) := by
  have hpairs : ∀ program : Program,
      (program.instructions.map fun instruction =>
        (instruction.opcode, instruction.operands)).toList =
      program.actions.map fun action => (action.opcode, action.operands) := by
    intro program
    rw [Array.toList_map, actions, List.map_map]
    rfl
  rw [← Array.toList_inj, hpairs, hpairs, h]

theorem target_le_of_mem_places {name source : String} (h : assemble name source = .ok program)
    {label : String} {place : Nat} (hmem : (label, place) ∈ program.places) :
    place ≤ program.size := by
  obtain ⟨found, hfound, hpair⟩ := List.mem_map.mp hmem
  cases hpair
  exact (ordered_of_assemble h).target_le found hfound

/-- The printed form of an assembled program with known opcodes assembles to a program with the same
labels, opcodes and operands. -/
theorem assemble_printed {name source : String} (h : assemble name source = .ok program)
    (hopcodes : ∀ instruction ∈ program.instructions,
      ∃ opcode : Opcode, instruction.opcode = opcode.mnemonic) (file : String) :
    ∃ again, assemble file program.printed = .ok again ∧
      (∀ label, again.resolve? label = program.resolve? label) ∧
      again.instructions.map (fun instruction => (instruction.opcode, instruction.operands)) =
        program.instructions.map fun instruction =>
          (instruction.opcode, instruction.operands) := by
  have hprintable := printable_of_assemble h
  have hnodup := nodup_places h
  have hopcodes : ∀ instruction ∈ program.instructions.toList,
      ∃ opcode : Opcode, instruction.opcode = opcode.mnemonic :=
    fun instruction hmem => hopcodes instruction (Array.mem_toList_iff.mp hmem)
  have hoperands : ∀ instruction ∈ program.instructions.toList,
      Source.Writable (instruction.operands.map String.toList) := by
    intro instruction hmem
    obtain ⟨opcode, hopcode⟩ := hopcodes instruction hmem
    refine hprintable.operands ⟨instruction.opcode, instruction.operands⟩
      (List.mem_map.mpr ⟨instruction, hmem, rfl⟩) ?_
    rw [hopcode]
    exact opcode.isIdentifier_mnemonic
  obtain ⟨hwritable, hsaid⟩ := hprintable.printedFrom 0 hopcodes hoperands
  obtain ⟨again, hagain, hactions, hplaces⟩ := assemble_written hwritable hsaid
    (nodup_placesFrom_saidFrom hnodup 0 _) file
  rw [actions_saidFrom] at hactions
  refine ⟨again, hagain, ?_, map_instructions_eq hactions⟩
  apply resolve?_congr (nodup_places hagain) hnodup
  intro label place
  rw [hplaces, mem_placesFrom_saidFrom, and_iff_right_iff_imp]
  intro hmem
  have htarget := target_le_of_mem_places h hmem
  simp only [Array.length_toList]
  exact ⟨Nat.zero_le place, by rwa [Nat.zero_add]⟩

/-- Commas and comment marks in quotes, a quote that stays open and a label at the end survive. -/
theorem assemble_printed_quotes :
    ∃ program again,
      assemble "quotes" "b:\na: load r0 , ';,#' ; note\nSTORE x y,, \"\\\", #\r\nc:" = .ok program ∧
      assemble "again" program.printed = .ok again ∧
      again.resolve? "a" = some 0 ∧ again.resolve? "c" = some 2 ∧
      again.instructions.map (fun instruction => (instruction.opcode, instruction.operands)) =
        #[("LOAD", ["r0", "';,#'"]), ("STORE", ["x y", "\"\\\", #"])] := by
  have hassemble :
      assemble "quotes" "b:\na: load r0 , ';,#' ; note\nSTORE x y,, \"\\\", #\r\nc:" =
        .ok ⟨"quotes", #[⟨"LOAD", ["r0", "';,#'"], 2, "a: load r0 , ';,#' ; note"⟩,
          ⟨"STORE", ["x y", "\"\\\", #"], 3, "STORE x y,, \"\\\", #"⟩],
          [⟨"b", 0, 1⟩, ⟨"a", 0, 2⟩, ⟨"c", 2, 4⟩]⟩ := rfl
  obtain ⟨again, hagain, hlabels, hinstructions⟩ := assemble_printed hassemble (by
    intro instruction hmem
    rcases (by simpa using hmem : instruction = _ ∨ instruction = _) with rfl | rfl
    · exact ⟨.load, rfl⟩
    · exact ⟨.store, rfl⟩) "again"
  refine ⟨_, again, hassemble, hagain, ?_, ?_, ?_⟩
  · rw [hlabels]
    rfl
  · rw [hlabels]
    rfl
  · rw [hinstructions]
    simp

end Program

end RegisterMachine
