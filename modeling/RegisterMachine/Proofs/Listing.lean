import RegisterMachine.Proofs.InstructionLine

/-!
Listings as a whole. The lines of a listing go through the places of the program in order. Each
label stands once, in front of its place, and no line holds a line feed, although instructions are
quoted in it.
-/

namespace RegisterMachine

open Text (Lacks lacks_append)

namespace Text

/-- The one text comes before the other, by code points. -/
def Before (first second : List Char) : Prop :=
  List.Lex (fun c d : Char => c.toNat < d.toNat) first second

section
variable {first second third : List Char}

theorem precedes_cons_iff {c d : Char} : precedes (c :: first) (d :: second) = true ↔
    c.toNat < d.toNat ∨ c.toNat = d.toNat ∧ precedes first second = true := by
  rw [precedes]
  by_cases heq : c.toNat = d.toNat
  · simp only [heq, beq_self_eq_true, ite_true, Nat.lt_irrefl, false_or, true_and]
  · have hbeq : (c.toNat == d.toNat) = false := beq_false_of_ne heq
    simp only [hbeq, heq, Bool.false_eq_true, ite_false, decide_eq_true_eq, false_and, or_false]

theorem precedes_trans (h : precedes first second = true) (hnext : precedes second third = true) :
    precedes first third = true := by
  induction first generalizing second third with
  | nil => rfl
  | cons c first ih =>
    cases second with
    | nil => cases h
    | cons d second =>
      cases third with
      | nil => cases hnext
      | cons e third =>
        rw [precedes_cons_iff] at h hnext ⊢
        rcases h with hlt | ⟨heq, hrest⟩
        · left
          omega
        · rcases hnext with hlt | ⟨hsame, hmore⟩
          · left
            omega
          · right
            exact ⟨heq.trans hsame, ih hrest hmore⟩

theorem precedes_total (first second : List Char) :
    (precedes first second || precedes second first) = true := by
  rw [Bool.or_eq_true]
  induction first generalizing second with
  | nil => exact .inl rfl
  | cons c first ih =>
    cases second with
    | nil => exact .inr rfl
    | cons d second =>
      rw [precedes_cons_iff, precedes_cons_iff]
      rcases Nat.lt_trichotomy c.toNat d.toNat with hlt | heq | hlt
      · exact .inl (.inl hlt)
      · rcases ih second with h | h
        · exact .inl (.inr ⟨heq, h⟩)
        · exact .inr (.inr ⟨heq.symm, h⟩)
      · exact .inr (.inl hlt)

theorem before_of_precedes (h : precedes first second = true) (hne : first ≠ second) :
    Before first second := by
  induction first generalizing second with
  | nil =>
    cases second with
    | nil => exact absurd rfl hne
    | cons d second => exact .nil
  | cons c first ih =>
    cases second with
    | nil => cases h
    | cons d second =>
      rcases precedes_cons_iff.mp h with hlt | ⟨heq, hrest⟩
      · exact .rel hlt
      · obtain rfl := Char.toNat_inj.mp heq
        apply List.Lex.cons
        apply ih hrest
        rintro rfl
        exact hne rfl

end

end Text

namespace Program

variable {program : Program}

/-- The names of a place come in order, and none comes twice. -/
theorem labelsAt_pairwise (h : (program.places.map Prod.fst).Nodup) (place : Nat) :
    (program.labelsAt place).Pairwise fun first second =>
      Text.Before first.toList second.toList := by
  have hsorted : (program.labelsAt place).Pairwise fun first second =>
      Text.precedes first.toList second.toList = true := by
    apply List.pairwise_mergeSort
    · intro _ _ _ hfirst hsecond
      exact Text.precedes_trans hfirst hsecond
    · intro first second
      exact Text.precedes_total first.toList second.toList
  have hdistinct : (program.labelsAt place).Pairwise (· ≠ ·) := nodup_labelsAt h place
  apply (hsorted.and hdistinct).imp
  rintro first second ⟨hprecedes, hne⟩
  apply Text.before_of_precedes hprecedes
  intro heq
  exact hne (String.toList_inj.mp heq)

end Program

namespace Text

variable {c : Char} {text : List Char}

theorem ofNat_ne_feed {n : Nat} (h : n ≠ 10) : Char.ofNat n ≠ '\n' := by
  intro hfeed
  by_cases hvalid : n.isValidChar
  · have hcode := congrArg Char.toNat hfeed
    rw [Char.ofNat, dif_pos hvalid] at hcode
    exact h hcode
  · rw [Char.ofNat, dif_neg hvalid] at hfeed
    cases hfeed

theorem eq_feed_of_mem_upperChar (h : '\n' ∈ upperChar c) : c = '\n' := by
  have hexpansions : ∀ entry ∈ caseExpansions, 10 ∉ entry.2 := by decide +kernel
  have hruns : ∀ run ∈ caseRuns, 10 < (run.first : Int) + run.shift := by decide +kernel
  unfold upperChar at h
  split at h
  · rename_i hascii
    have hupper : ∀ n < 128, (Char.ofNat n).toUpper = '\n' → n = 10 := by decide
    have hcode := hupper c.toNat hascii
    rw [Char.ofNat_toNat] at hcode
    exact Char.toNat_inj.mp (hcode (List.mem_singleton.mp h).symm)
  · split at h
    · rename_i codes hlookup
      obtain ⟨code, hcode, hfeed⟩ := List.mem_map.mp h
      obtain ⟨front, back, hentries, _⟩ := List.lookup_eq_some_iff.mp hlookup
      have hentry : (c.toNat, codes) ∈ caseExpansions := by
        rw [hentries]
        exact List.mem_append_right front List.mem_cons_self
      apply absurd hfeed
      apply ofNat_ne_feed
      rintro rfl
      exact hexpansions _ hentry hcode
    · split at h
      · rename_i run hrun
        have hshift := hruns run (List.mem_of_find?_eq_some hrun)
        have hcovers := List.find?_some hrun
        simp only [CaseRun.covers, Bool.and_eq_true, decide_eq_true_eq] at hcovers
        apply absurd (List.mem_singleton.mp h).symm
        apply ofNat_ne_feed
        omega
      · exact (List.mem_singleton.mp h).symm

theorem feed_not_mem_uppercase (h : '\n' ∉ text) : '\n' ∉ uppercase text := by
  intro hfeed
  obtain ⟨c, hc, hupper⟩ := List.mem_flatMap.mp hfeed
  rw [eq_feed_of_mem_upperChar hupper] at hc
  exact h hc

end Text

namespace Source

variable {text raw : List Char} {action : Action}

/-- The mnemonic and the operands have no line feeds. -/
structure Action.OneLine (action : Action) : Prop where
  opcode : Lacks '\n' action.opcode
  operands : ∀ operand ∈ action.operands, Lacks '\n' operand

theorem oneLine_of_ofText? (hline : '\n' ∉ text) (h : Action.ofText? text = some action) :
    action.OneLine := by
  unfold Action.ofText? at h
  split at h
  · cases h
  · cases h
    constructor
    · unfold Lacks
      rw [String.toList_ofList]
      apply Text.feed_not_mem_uppercase
      intro hfeed
      exact hline ((List.takeWhile_sublist _).mem hfeed)
    · intro operand hoperand
      obtain ⟨token, htoken, rfl⟩ := List.mem_map.mp hoperand
      unfold Lacks
      rw [String.toList_ofList]
      intro hfeed
      have hrest := mem_of_mem_trim (mem_of_mem_operandTokens htoken hfeed)
      exact hline ((List.dropWhile_sublist _).mem hrest)

theorem oneLine_of_ofLine (hline : '\n' ∉ raw) (h : (Statement.ofLine raw).action = some action) :
    action.OneLine := by
  have htext : '\n' ∉ Text.trim (uncommented .outside raw) :=
    fun hfeed => hline (mem_of_mem_uncommented (mem_of_mem_trim hfeed))
  unfold Statement.ofLine at h
  simp only at h
  split at h
  · rename_i name rest hlabel
    obtain ⟨_, tail, hsplit, rfl⟩ := splitLabel?_eq_some_cases hlabel
    rw [hsplit] at htext
    apply oneLine_of_ofText? _ h
    intro hfeed
    exact htext (List.mem_append_right _ (List.mem_cons_of_mem _ (mem_of_mem_trim hfeed)))
  · exact oneLine_of_ofText? htext h

end Source

namespace Program

variable {program : Program} {config : Config} {instruction : Instruction} {text label : String}

theorem oneLine_of_assemble {name source : String} (h : assemble name source = .ok program) :
    ∀ action ∈ program.actions, action.OneLine := by
  refine addLines_induction (P := fun program => ∀ action ∈ program.actions, action.OneLine)
    ?_ ?_ h
  · intro program line raw hraw hprogram _ action haction
    rw [actions_extended] at haction
    rcases List.mem_append.mp haction with haction | haction
    · exact hprogram action haction
    · have hline := not_mem_dropReturn (Text.not_mem_of_mem_lines hraw)
      exact Source.oneLine_of_ofLine hline (Option.mem_toList.mp haction)
  · intro action haction
    cases haction

theorem Says.lacks_feed (h : Says program config instruction text)
    (hline : Source.Action.OneLine ⟨instruction.opcode, instruction.operands⟩) :
    Lacks '\n' text := by
  have hmnemonic : ∀ opcode : Opcode, Lacks '\n' opcode.mnemonic :=
    Opcode.lacks_mnemonic (.inr rfl)
  have hremark : ∀ condition : Condition, Lacks '\n' condition.remark := by
    intro condition
    cases condition <;> decide
  have hlabel : ∀ {opcode condition label},
      instruction.decode program.name config = .ok (opcode, .jump condition label) →
      Lacks '\n' label := by
    intro opcode condition label hdecode
    obtain ⟨_, _, hoperands, _⟩ := Instruction.decode_eq_jump_iff.mp hdecode
    apply hline.operands
    rw [hoperands]
    exact List.mem_cons_self
  cases h with
  | fault hdecode =>
    rw [lacks_append]
    refine ⟨by decide, ?_⟩
    apply Failure.lacks_feed_message (Instruction.isStatic_of_decode hdecode)
    intro token htoken
    rcases Instruction.decode_eq_error hdecode with rfl | ⟨_, found, _, hfound, _, rfl⟩
    · cases htoken
      exact hline.opcode
    · exact hline.operands token (hfound token htoken)
  | @jump _ _ _ target hdecode _ =>
    have htarget : Lacks '\n' (placeText target) :=
      Text.lacks_of_digits rfl fun _ => isDigit_of_mem_placeText
    simp only [lacks_append, hmnemonic, hlabel hdecode, htarget, hremark, and_true, true_and]
    decide
  | astray hdecode _ =>
    simp only [lacks_append, hmnemonic, hlabel hdecode, hremark, and_true, true_and]
    decide
  | plain _ hplain => exact lacks_append.mpr ⟨hmnemonic _, Operation.lacks_text (.inr rfl) hplain⟩

theorem bodyLines_eq (program : Program) (config : Config) (place : Nat)
    (instructions : List Instruction) : program.bodyLines config place instructions =
      ((instructions.zipIdx place).flatMap fun entry =>
        program.labelLines entry.2 ++ [program.instructionLine config entry.2 entry.1]) ++
      program.labelLines (place + instructions.length) := by
  induction instructions generalizing place with
  | nil => rfl
  | cons instruction rest ih =>
    rw [bodyLines, ih, List.zipIdx_cons, List.flatMap_cons, List.length_cons, List.append_assoc,
      List.append_assoc, Nat.add_right_comm, Nat.add_assoc]
    rfl

theorem instructionLine_ne_label (hname : Source.isIdentifier label.toList = true) (place : Nat) :
    program.instructionLine config place instruction ≠ label ++ ":" := by
  intro heq
  have hspace : Lacks ' ' (label ++ ":") := by
    rw [lacks_append]
    refine ⟨?_, by decide⟩
    intro hmem
    cases hname.symm.trans (Source.isIdentifier_of_mem_space hmem)
  rw [← heq, instructionLine_eq, columns] at hspace
  simp only [lacks_append] at hspace
  have hgap : ¬ Lacks ' ' " " := by decide
  exact hgap hspace.1.2

theorem count_labelLines (program : Program) (place : Nat) (label : String) :
    (program.labelLines place).count (label ++ ":") = (program.labelsAt place).count label := by
  unfold labelLines List.count
  rw [List.countP_map]
  congr 1
  funext name
  rw [Function.comp_apply, Bool.eq_iff_iff, beq_iff_eq, beq_iff_eq, String.append_left_inj]

theorem count_bodyLines (hname : Source.isIdentifier label.toList = true) (place : Nat)
    (instructions : List Instruction) :
    (program.bodyLines config place instructions).count (label ++ ":") =
      ((placesFrom place (program.saidFrom place instructions)).map Prod.fst).count label := by
  have hhere : ∀ place, ((program.labelsAt place).map (·, place)).map Prod.fst =
      program.labelsAt place := by
    intro place
    rw [List.map_map]
    exact List.map_id _
  induction instructions generalizing place with
  | nil => rw [placesFrom_saidFrom_nil, hhere, bodyLines, count_labelLines]
  | cons instruction rest ih =>
    rw [placesFrom_saidFrom_cons, List.map_append, hhere, bodyLines, List.count_append,
      List.count_append, count_labelLines, List.count_cons_of_ne, ih]
    exact instructionLine_ne_label hname place

/-- The lines of a listing after its header: they go through the places in order, name every label
once, and say of each instruction what the check and the execution say. -/
structure ListedBody (program : Program) (config : Config) (body : List String) : Prop where
  lines : body = (program.instructions.toList.zipIdx.flatMap fun entry =>
      (program.labelsAt entry.2).map (· ++ ":") ++
        [program.instructionLine config entry.2 entry.1]) ++
    (program.labelsAt program.size).map (· ++ ":")
  oneLine : ∀ line ∈ body, '\n' ∉ line.toList
  sorted : ∀ place, (program.labelsAt place).Pairwise fun first second =>
    Text.Before first.toList second.toList
  labels : ∀ place name, name ∈ program.labelsAt place ↔ program.resolve? name = some place
  once : ∀ label ∈ program.labels, body.count (label.name ++ ":") = 1
  agrees : ∀ place instruction, program.instructions[place]? = some instruction →
    program.LineAgrees config place instruction (program.instructionLine config place instruction)

theorem count_label {name source : String} (h : assemble name source = .ok program)
    (config : Config) {label : Label} (hlabel : label ∈ program.labels) :
    (program.bodyLines config 0 program.instructions.toList).count (label.name ++ ":") = 1 := by
  have hplace : (label.name, label.target) ∈ program.places := List.mem_map.mpr ⟨label, hlabel, rfl⟩
  have hidentifier := (printable_of_assemble h).names _ hplace
  have htarget := (ordered_of_assemble h).target_le label hlabel
  have hsaid : (label.name, label.target) ∈
      placesFrom 0 (program.saidFrom 0 program.instructions.toList) := by
    rw [mem_placesFrom_saidFrom, Array.length_toList, Nat.zero_add]
    exact ⟨⟨Nat.zero_le _, htarget⟩, hplace⟩
  have hnodup := nodup_placesFrom_saidFrom (nodup_places h) 0 program.instructions.toList
  rw [count_bodyLines hidentifier, hnodup.count, if_pos]
  exact List.mem_map.mpr ⟨_, hsaid, rfl⟩

theorem lacks_feed_of_mem_bodyLines {name source line : String}
    (h : assemble name source = .ok program)
    (hline : line ∈ program.bodyLines config 0 program.instructions.toList) :
    Lacks '\n' line := by
  have hlabels : ∀ place, ∀ line ∈ program.labelLines place, Lacks '\n' line := by
    intro place line hline
    obtain ⟨label, hlabel, rfl⟩ := List.mem_map.mp hline
    have hidentifier := (printable_of_assemble h).names _ (mem_labelsAt_iff.mp hlabel)
    exact (writable_label hidentifier).oneLine
  rw [bodyLines_eq] at hline
  rcases List.mem_append.mp hline with hline | hline
  · obtain ⟨⟨instruction, place⟩, hentry, hmem⟩ := List.mem_flatMap.mp hline
    rcases List.mem_append.mp hmem with hmem | hmem
    · exact hlabels place line hmem
    · rw [List.mem_singleton.mp hmem, instructionLine_eq, lacks_append]
      have hinstruction : instruction ∈ program.instructions.toList :=
        List.mem_of_getElem? (List.mk_mem_zipIdx_iff_getElem?.mp hentry)
      have hone := oneLine_of_assemble h _ (List.mem_map.mpr ⟨instruction, hinstruction, rfl⟩)
      exact ⟨lacks_columns (.inr rfl) _ _, (says_instructionText _ _ _).lacks_feed hone⟩
  · exact hlabels _ line hline

/-- A listing agrees with the check and the execution of the program, line by line. -/
theorem listing_agrees {name source : String} (h : assemble name source = .ok program)
    (config : Config) :
    (program.problems config).map Prod.snd = program.check config ∧
    ∃ body, program.listing config = Text.written (program.headerLines ++ body) ∧
      program.ListedBody config body := by
  refine ⟨map_snd_problems program config, _, rfl, ?_⟩
  constructor
  · rw [bodyLines_eq, Nat.zero_add]
    rfl
  · intro line hline
    exact lacks_feed_of_mem_bodyLines h hline
  · intro place
    exact labelsAt_pairwise (nodup_places h) place
  · intro place label
    rw [mem_labelsAt_iff, resolve?_eq_some_iff (nodup_places h)]
  · intro label hlabel
    exact count_label h config hlabel
  · intro place instruction hinstruction
    exact lineAgrees hinstruction

/-- A jump shows the end of the program, and the two kinds of problems show on their lines. -/
theorem listing_agrees_on_problems : ∃ program body,
    assemble "small" "b:\na: JMP end\nINC r9\nJMP gone\nend:\n" = .ok program ∧
    program.listing {} = Text.written (program.headerLines ++ body) ∧
    body.count "a:" = 1 ∧ body.count "end:" = 1 ∧
    ShowsTarget "0000  L2    JMP end -> 0003" 3 ∧
    ((Engine.new {}).install program).step.2.machine.pc = 3 ∧
    (∃ failure, (1, failure) ∈ program.problems {} ∧
      failure.message = "INC: register index out of range (r0..r3) 'r9' on line 3.") ∧
    (∃ opcode label location, (2, .unknownLabel opcode label location) ∈ program.problems {}) := by
  let jump : Instruction := ⟨"JMP", ["end"], 2, "a: JMP end"⟩
  let stray : Instruction := ⟨"JMP", ["gone"], 4, "JMP gone"⟩
  let program : Program := ⟨"small", #[jump, ⟨"INC", ["r9"], 3, "INC r9"⟩, stray],
    [⟨"b", 0, 1⟩, ⟨"a", 0, 2⟩, ⟨"end", 3, 5⟩]⟩
  have hassemble :
      assemble "small" "b:\na: JMP end\nINC r9\nJMP gone\nend:\n" = .ok program := rfl
  obtain ⟨_, body, hlisting, hbody⟩ := listing_agrees hassemble {}
  have hagrees := hbody.agrees 0 jump rfl
  have hdecode : jump.decode "small" {} = .ok (.jmp, .jump .always "end") := rfl
  have hline : program.instructionLine {} 0 jump = "0000  L2    JMP end -> 0003" := by
    decide +kernel
  have htarget := (hagrees.target 3).mpr ⟨_, _, _, hdecode, rfl⟩
  have hstep := (hagrees.taken _ _ _ hdecode ((Engine.new {}).install program) rfl rfl rfl rfl
    (by decide) rfl 3).mp htarget
  obtain ⟨failure, hproblem, _, hmessage⟩ := ((hbody.agrees 1 _ rfl).fault
    "INC: register index out of range (r0..r3) 'r9' on line 3.").mp (by decide +kernel)
  have hundefined : ShowsUndefined (program.instructionLine {} 2 stray) :=
    ⟨"0002  L4    JMP gone", .always, by decide +kernel⟩
  rw [hline] at htarget
  exact ⟨program, body, hassemble, hlisting, hbody.once ⟨"a", 0, 2⟩ (by decide),
    hbody.once ⟨"end", 3, 5⟩ (by decide), htarget, hstep.2, ⟨failure, hproblem, hmessage⟩,
    (hbody.agrees 2 stray rfl).undefined.mp hundefined⟩

end Program

end RegisterMachine
