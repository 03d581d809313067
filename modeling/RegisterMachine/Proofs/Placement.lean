import Mathlib.Data.List.Infix
import RegisterMachine.Proofs.Check
import RegisterMachine.Proofs.Jump
import RegisterMachine.Proofs.LabelTable
import RegisterMachine.Proofs.Permission

/-!
Where the operands of a line stand, and where a failure says that they stand. A slice is a piece of
a line that knows how many characters are in front of it. Reading a line with slices gives each
operand the column in which it begins. A failure searches the line for the token instead, and so
points at the operand exactly when the same characters do not come earlier.
-/

namespace RegisterMachine

namespace Text

variable {needle text : List Char} {offset first : Nat}

/-- The needle stands in the text behind this many characters. -/
def Occurs (needle text : List Char) (offset : Nat) : Prop :=
  needle <+: text.drop offset

/-- The needle stands there, and nowhere in front of that. -/
def FirstOccurs (needle text : List Char) (offset : Nat) : Prop :=
  Occurs needle text offset ∧ ∀ earlier < offset, ¬ Occurs needle text earlier

@[simp] theorem occurs_succ_iff {c : Char} :
    Occurs needle (c :: text) (offset + 1) ↔ Occurs needle text offset :=
  Iff.rfl

theorem Occurs.lt_length (h : Occurs needle text offset) (hne : needle ≠ []) :
    offset < text.length := by
  have hlength := h.length_le
  rw [List.length_drop] at hlength
  have hpos := List.length_pos_iff.mpr hne
  omega

theorem FirstOccurs.le_of_occurs (h : FirstOccurs needle text first)
    (hoccurs : Occurs needle text offset) : first ≤ offset := by
  apply Nat.le_of_not_lt
  intro hlt
  exact h.2 offset hlt hoccurs

theorem FirstOccurs.eq_iff (h : FirstOccurs needle text first)
    (hoccurs : Occurs needle text offset) :
    first = offset ↔ ∀ earlier < offset, ¬ Occurs needle text earlier := by
  constructor
  · rintro rfl
    exact h.2
  · intro hnone
    have hle := h.le_of_occurs hoccurs
    by_cases hlt : first < offset
    · exact absurd h.1 (hnone first hlt)
    · omega

theorem firstOccurs_of_indexOf? (h : indexOf? needle text = some offset) :
    FirstOccurs needle text offset := by
  induction text generalizing offset with
  | nil =>
    simp only [indexOf?] at h
    split at h
    · rename_i hempty
      cases h
      rw [List.isEmpty_iff.mp hempty]
      exact ⟨List.nil_prefix, fun earlier hlt => absurd hlt (Nat.not_lt_zero earlier)⟩
    · cases h
  | cons c rest ih =>
    simp only [indexOf?] at h
    split at h
    · rename_i hprefix
      cases h
      exact ⟨List.isPrefixOf_iff_prefix.mp hprefix,
        fun earlier hlt => absurd hlt (Nat.not_lt_zero earlier)⟩
    · rename_i hprefix
      obtain ⟨index, hindex, rfl⟩ := Option.map_eq_some_iff.mp h
      obtain ⟨hoccurs, hnone⟩ := ih hindex
      refine ⟨hoccurs, ?_⟩
      intro earlier hlt
      cases earlier with
      | zero => exact fun hzero => hprefix (List.isPrefixOf_iff_prefix.mpr hzero)
      | succ earlier => exact hnone earlier (Nat.lt_of_succ_lt_succ hlt)

theorem exists_indexOf? (h : Occurs needle text offset) :
    ∃ index, indexOf? needle text = some index := by
  induction text generalizing offset with
  | nil =>
    have hnil : needle = [] := by simpa [Occurs] using h
    exact ⟨0, by rw [hnil]; rfl⟩
  | cons c rest ih =>
    simp only [indexOf?]
    split
    · exact ⟨0, rfl⟩
    · rename_i hprefix
      cases offset with
      | zero => exact absurd (List.isPrefixOf_iff_prefix.mpr h) hprefix
      | succ offset =>
        obtain ⟨index, hindex⟩ := ih (occurs_succ_iff.mp h)
        exact ⟨index + 1, by rw [hindex]; rfl⟩

end Text

namespace Location

variable {raw token : String} {offset : Nat}

/-- A token that stands in a line is located at its first occurrence. -/
theorem ofToken_of_occurs (hne : token ≠ "") (h : Text.Occurs token.toList raw.toList offset)
    (file : String) (line : Nat) : ∃ first, Text.FirstOccurs token.toList raw.toList first ∧
      ofToken file line raw (some token) = ⟨file, line, first + 1⟩ := by
  obtain ⟨first, hfirst⟩ := Text.exists_indexOf? h
  exact ⟨first, Text.firstOccurs_of_indexOf? hfirst, ofToken_found hne hfirst⟩

end Location

namespace Source

open Quotation

/-- A piece of a line and the number of characters in front of it. -/
structure Slice (raw : List Char) where
  offset : Nat
  chars : List Char
  occurs : Text.Occurs chars raw offset

namespace Slice

variable {raw : List Char}

def whole (raw : List Char) : Slice raw :=
  ⟨0, raw, List.prefix_refl raw⟩

def dropFront (slice : Slice raw) (count : Nat) : Slice raw where
  offset := slice.offset + count
  chars := slice.chars.drop count
  occurs := by
    have hdrop := List.IsPrefix.drop slice.occurs count
    rwa [List.drop_drop] at hdrop

def upTo (slice : Slice raw) (chars : List Char) (h : chars <+: slice.chars) : Slice raw :=
  ⟨slice.offset, chars, h.trans slice.occurs⟩

theorem drop_takeWhile (p : Char → Bool) (text : List Char) :
    text.drop (text.takeWhile p).length = text.dropWhile p := by
  have hdrop : (text.takeWhile p ++ text.dropWhile p).drop (text.takeWhile p).length =
      text.dropWhile p := List.drop_left
  rwa [List.takeWhile_append_dropWhile] at hdrop

theorem isPrefix_trim (text : List Char) :
    Text.trim text <+: text.drop (text.takeWhile Text.isBlank).length := by
  obtain ⟨blanks, _, htext⟩ := Text.exists_trimEnd (Text.trimStart text)
  rw [drop_takeWhile]
  exact ⟨blanks, htext.symm⟩

def uncomment (slice : Slice raw) : Slice raw :=
  slice.upTo (uncommented outside slice.chars) (isPrefix_uncommented outside slice.chars)

def trim (slice : Slice raw) : Slice raw :=
  (slice.dropFront (slice.chars.takeWhile Text.isBlank).length).upTo (Text.trim slice.chars)
    (isPrefix_trim slice.chars)

def behindLabel (slice : Slice raw) : Slice raw :=
  match splitLabel? slice.chars with
  | some (name, _) => (slice.dropFront (name.length + 1)).trim
  | none => slice

def behindMnemonic (slice : Slice raw) : Slice raw :=
  (slice.dropFront (slice.chars.takeWhile (!Text.isBlank ·)).length).trim

/-- Cuts off pieces of these lengths one after the other, with one character between them. -/
def cut (slice : Slice raw) : List (List Char) → List (Slice raw)
  | [] => []
  | piece :: rest => slice.upTo (slice.chars.take piece.length) (List.take_prefix _ _) ::
      (slice.dropFront (piece.length + 1)).cut rest

theorem map_chars_cut (slice : Slice raw) {pieces : List (List Char)}
    (h : slice.chars = List.intercalate [','] pieces) : (slice.cut pieces).map chars = pieces := by
  induction pieces generalizing slice with
  | nil => rfl
  | cons piece rest ih =>
    cases rest with
    | nil =>
      rw [List.intercalate_singleton] at h
      simp only [cut, List.map_cons, List.map_nil, upTo, h, List.take_length]
    | cons next rest =>
      rw [List.intercalate_cons_cons, List.append_assoc] at h
      have hrest : (slice.dropFront (piece.length + 1)).chars =
          List.intercalate [','] (next :: rest) := by
        simp only [dropFront, h, List.drop_append, List.drop_eq_nil_of_le (Nat.le_succ _)]
        simp
      have hfirst : slice.chars.take piece.length = piece := by rw [h, List.take_left]
      rw [cut, List.map_cons, ih _ hrest]
      exact congrArg (· :: next :: rest) hfirst

end Slice

/-- The pieces between bare commas make up the text again. -/
@[simp] theorem intercalate_fragments (state : Quotation) (text : List Char) :
    List.intercalate [','] (fragments state text) = text := by
  induction text generalizing state with
  | nil => rfl
  | cons c rest ih =>
    obtain ⟨piece, others, hpieces⟩ :=
      List.exists_cons_of_ne_nil (fragments_ne_nil (state.next c) rest)
    have hrest := ih (state.next c)
    rw [hpieces] at hrest
    unfold fragments
    rw [hpieces]
    split
    · rename_i hcomma
      obtain rfl : c = ',' := by
        simp only [Bool.and_eq_true, beq_iff_eq] at hcomma
        exact hcomma.2
      rw [List.intercalate_cons_cons, hrest]
      rfl
    · cases others with
      | nil =>
        rw [List.intercalate_singleton] at hrest
        rw [Text.consFirst, List.intercalate_singleton, hrest]
      | cons next others =>
        rw [List.intercalate_cons_cons] at hrest
        rw [Text.consFirst, List.intercalate_cons_cons, List.cons_append, List.cons_append, hrest]

/-- The operands of a line, each with its place: the comment goes first, then outer blanks, the
label and the mnemonic. -/
def operandSlices (raw : List Char) : List (Slice raw) :=
  let operands := (Slice.whole raw).uncomment.trim.behindLabel.behindMnemonic
  ((operands.cut (fragments outside operands.chars)).map Slice.trim).filter (!·.chars.isEmpty)

variable {raw : List Char} {action : Action}

theorem chars_behindMnemonic (slice : Slice raw) :
    slice.behindMnemonic.chars = (splitMnemonic slice.chars).2 :=
  congrArg Text.trim (Slice.drop_takeWhile _ slice.chars)

theorem chars_behindLabel (slice : Slice raw) :
    Action.ofText? slice.behindLabel.chars =
      match splitLabel? slice.chars with
      | some (_, rest) => Action.ofText? rest
      | none => Action.ofText? slice.chars := by
  unfold Slice.behindLabel
  cases hlabel : splitLabel? slice.chars with
  | none => rfl
  | some found =>
    obtain ⟨name, rest⟩ := found
    obtain ⟨_, tail, htext, rfl⟩ := splitLabel?_eq_some_cases hlabel
    have htail : slice.chars.drop (name.length + 1) = tail := by
      rw [htext, List.drop_append, List.drop_eq_nil_of_le (Nat.le_succ _)]
      simp
    exact congrArg (fun text => Action.ofText? (Text.trim text)) htail

theorem action_ofLine_eq (raw : List Char) : (Statement.ofLine raw).action =
    Action.ofText? (Slice.whole raw).uncomment.trim.behindLabel.chars := by
  rw [chars_behindLabel]
  unfold Statement.ofLine
  simp only
  change _ = match splitLabel? (Text.trim (uncommented outside raw)) with
    | some (_, rest) => Action.ofText? rest
    | none => Action.ofText? (Text.trim (uncommented outside raw))
  cases splitLabel? (Text.trim (uncommented outside raw)) <;> rfl

theorem map_chars_operandSlices (raw : List Char) : (operandSlices raw).map Slice.chars =
    operandTokens (Slice.whole raw).uncomment.trim.behindLabel.behindMnemonic.chars := by
  generalize hoperands : (Slice.whole raw).uncomment.trim.behindLabel.behindMnemonic = operands
  have hcut := operands.map_chars_cut (intercalate_fragments outside operands.chars).symm
  unfold operandSlices operandTokens
  simp only [hoperands]
  generalize operands.cut (fragments outside operands.chars) = slices at hcut ⊢
  rw [← hcut, List.map_map, List.filter_map, List.filter_map, List.map_map]
  rfl

/-- The slices are the operands that the line was read to have. -/
theorem operands_eq_of_action (h : (Statement.ofLine raw).action = some action) :
    (operandSlices raw).map (fun slice => String.ofList slice.chars) = action.operands := by
  have htokens := map_chars_operandSlices raw
  rw [action_ofLine_eq] at h
  rw [chars_behindMnemonic] at htokens
  generalize (Slice.whole raw).uncomment.trim.behindLabel.chars = text at h htokens
  have hoperands : action.operands = (operandTokens (splitMnemonic text).2).map String.ofList := by
    unfold Action.ofText? at h
    split at h
    · cases h
    · cases h
      rfl
  rw [hoperands, ← htokens, List.map_map]
  rfl

theorem chars_ne_nil_of_mem {slice : Slice raw} (h : slice ∈ operandSlices raw) :
    slice.chars ≠ [] := by
  have hkept := (List.mem_filter.mp h).2
  simpa using hkept

end Source

def Failure.operand? : Failure → Option String
  | badOperand _ token _ _ => token
  | unknownLabel _ label _ => some label
  | _ => none

theorem Failure.isStatic_of_operand? {failure : Failure} {token : String}
    (h : failure.operand? = some token) : failure.isStatic = true := by
  cases failure with
  | badOperand | unknownLabel => rfl
  | _ => cases h

namespace Instruction

variable {instruction : Instruction} {program : Program} {config : Config} {failure : Failure}
variable {token : String} {index : Nat}

/-- Decoding the instruction, checking it, or a step on it fails so. -/
def Reported (instruction : Instruction) (program : Program) (config : Config)
    (failure : Failure) : Prop :=
  instruction.decode program.name config = .error failure ∨
    instruction.problem? program config = some failure ∨
    ∃ engine : Engine, engine.program = program ∧ engine.config = config ∧
      engine.current? = some instruction ∧ engine.step.1 = .error failure

/-- The operand in this place is to blame: those in front of it resolve, and it does not, or else it
names a label that the program lacks. -/
def Offends (instruction : Instruction) (program : Program) (config : Config) (index : Nat)
    (token : String) : Prop :=
  ∃ opcode front allowed back, instruction.opcode = Opcode.mnemonic opcode ∧
    instruction.placed opcode = front ++ (token, allowed) :: back ∧ front.length = index ∧
    (∀ position ∈ front, ∃ operand,
      Operand.resolve position.1 position.2 config = .ok operand) ∧
    ((∃ fault, Operand.resolve token allowed config = .error fault) ∨
      Operand.resolve token allowed config = .ok (.label token) ∧ program.resolve? token = none)

theorem Offends.operand (h : instruction.Offends program config index token) :
    instruction.operands[index]? = some token := by
  obtain ⟨opcode, front, allowed, back, _, hplaced, rfl, _⟩ := h
  have hentry : (instruction.placed opcode)[front.length]? = some (token, allowed) := by
    rw [hplaced]
    simp
  exact (List.getElem?_zip_eq_some.mp hentry).1

/-- Whoever reports an operand of the instruction, the check does too. -/
theorem Reported.problem? (h : instruction.Reported program config failure)
    (htoken : failure.operand? = some token) :
    instruction.problem? program config = some failure := by
  rcases h with hdecode | hproblem | ⟨engine, rfl, rfl, hcurrent, hstep⟩
  · exact problem?_eq_some_iff.mpr (.inl hdecode)
  · exact hproblem
  · rcases (Engine.stepRule_of_error hstep).error_cases with hdynamic | rfl | hproblem
    · rw [Failure.isDynamic_eq_false (Failure.isStatic_of_operand? htoken)] at hdynamic
      cases hdynamic
    · cases htoken
    · obtain ⟨found, hfound, hproblem⟩ := hproblem
      cases hcurrent.symm.trans hfound
      exact hproblem

theorem exists_offends (h : instruction.problem? program config = some failure)
    (htoken : failure.operand? = some token) :
    (∃ index, instruction.Offends program config index token) ∧
      failure.location? = some (instruction.locate program.name (some token)) := by
  rcases problem?_eq_some_iff.mp h with hdecode | ⟨opcode, condition, label, hjump, hlabel, rfl⟩
  · cases decode_eq_error_iff_refused.mp hdecode with
    | opcode => cases htoken
    | arity => cases htoken
    | @operand opcode front back _ allowed fault hopcode _ hplaced hfront hfault =>
      cases htoken
      exact ⟨⟨_, opcode, front, allowed, back, hopcode, hplaced, rfl, hfront,
        .inl ⟨fault, hfault⟩⟩, rfl⟩
  · cases htoken
    obtain ⟨hopcode, hcondition, hoperands, hkind⟩ := decode_eq_jump_iff.mp hjump
    have hplaced : instruction.placed opcode = [] ++ (token, [.label]) :: [] := by
      rw [placed, hoperands, Opcode.positions_of_condition? hcondition]
      rfl
    refine ⟨⟨0, opcode, [], [.label], [], Opcode.ofMnemonic?_eq_some_iff.mp hopcode, hplaced, rfl,
      fun _ hposition => absurd hposition List.not_mem_nil, .inr ⟨?_, hlabel⟩⟩, rfl⟩
    exact Operand.resolve_label_iff.mpr ⟨rfl, hkind⟩

end Instruction

namespace Program

variable {program : Program} {name source : String} {instruction : Instruction}

theorem action_of_assemble (h : assemble name source = .ok program) :
    ∀ instruction ∈ program.instructions.toList,
      (Source.Statement.ofLine instruction.raw.toList).action =
        some ⟨instruction.opcode, instruction.operands⟩ := by
  refine addLines_induction (P := fun program => ∀ instruction ∈ program.instructions.toList,
    (Source.Statement.ofLine instruction.raw.toList).action =
      some ⟨instruction.opcode, instruction.operands⟩) ?_ ?_ h
  · intro program line raw _ hprogram _ instruction hinstruction
    rw [instructions_extended] at hinstruction
    rcases List.mem_append.mp hinstruction with hold | hnew
    · exact hprogram instruction hold
    · obtain ⟨action, haction, rfl⟩ := List.mem_map.mp hnew
      rw [String.toList_ofList]
      exact Option.mem_toList.mp haction
  · intro instruction hinstruction
    cases hinstruction

/-- A failure about an operand points at the first place on the line where the characters of the
operand stand. That is never behind the operand, and it is where the operand begins exactly if the
same characters do not come earlier on the line. -/
theorem reported_column_exact (h : assemble name source = .ok program)
    (hmem : instruction ∈ program.instructions.toList) (config : Config) :
    Text.lineAt? source instruction.line = some instruction.raw.toList ∧
    (Source.operandSlices instruction.raw.toList).map (fun slice => String.ofList slice.chars) =
      instruction.operands ∧
    ∀ failure token, instruction.Reported program config failure →
      failure.operand? = some token →
      ∃ index slice location, instruction.Offends program config index token ∧
        (Source.operandSlices instruction.raw.toList)[index]? = some slice ∧
        slice.chars = token.toList ∧
        failure.location? = some location ∧ location.file = name ∧
        location.line = instruction.line ∧
        (∃ first, Text.FirstOccurs token.toList instruction.raw.toList first ∧
          location.column = first + 1) ∧
        location.column ≤ slice.offset + 1 ∧
        (location.column = slice.offset + 1 ↔
          ∀ earlier < slice.offset, ¬ Text.Occurs token.toList instruction.raw.toList earlier) := by
  have hoperands : (Source.operandSlices instruction.raw.toList).map
      (fun slice => String.ofList slice.chars) = instruction.operands :=
    Source.operands_eq_of_action (action_of_assemble h instruction hmem)
  refine ⟨(recorded_of_assemble h).raw instruction hmem, hoperands, ?_⟩
  intro failure token hreported htoken
  obtain ⟨⟨index, hoffends⟩, hlocation⟩ :=
    Instruction.exists_offends (hreported.problem? htoken) htoken
  have hentry := hoffends.operand
  rw [← hoperands, List.getElem?_map] at hentry
  obtain ⟨slice, hslice, hchars⟩ := Option.map_eq_some_iff.mp hentry
  obtain rfl : token = String.ofList slice.chars := hchars.symm
  have hne : String.ofList slice.chars ≠ "" := by
    intro hempty
    apply Source.chars_ne_nil_of_mem (List.mem_of_getElem? hslice)
    simpa using congrArg String.toList hempty
  have hoccurs : Text.Occurs (String.ofList slice.chars).toList instruction.raw.toList
      slice.offset := by
    rw [String.toList_ofList]
    exact slice.occurs
  obtain ⟨first, hfirst, hcolumn⟩ :=
    Location.ofToken_of_occurs hne hoccurs program.name instruction.line
  refine ⟨index, slice, _, hoffends, hslice, String.toList_ofList.symm, hlocation,
    name_of_assemble h, rfl, ⟨first, hfirst, congrArg Location.column hcolumn⟩, ?_, ?_⟩
  · rw [Instruction.locate, hcolumn]
    exact Nat.succ_le_succ (hfirst.le_of_occurs hoccurs)
  · rw [Instruction.locate, hcolumn, Nat.add_right_cancel_iff]
    exact hfirst.eq_iff hoccurs

/-- A register that the machine lacks, behind a label and in front of a comment that repeats it. -/
theorem reported_column_of_register : ∃ program instruction location,
    assemble "go" "go: LOAD r4, 4 ; r4\n" = .ok program ∧
    instruction ∈ program.instructions.toList ∧
    instruction.decode "go" {} =
      .error (.badOperand .load (some "r4") (.registerOutOfRange 4) location) ∧
    (∃ slice ∈ Source.operandSlices instruction.raw.toList, slice.chars = "r4".toList ∧
      location.column = slice.offset + 1) ∧
    ∀ earlier < 9, ¬ Text.Occurs "r4".toList instruction.raw.toList earlier := by
  have hassemble : assemble "go" "go: LOAD r4, 4 ; r4\n" =
      .ok ⟨"go", #[⟨"LOAD", ["r4", "4"], 1, "go: LOAD r4, 4 ; r4"⟩], [⟨"go", 0, 1⟩]⟩ := rfl
  have hmem : Instruction.mk "LOAD" ["r4", "4"] 1 "go: LOAD r4, 4 ; r4" ∈
      [Instruction.mk "LOAD" ["r4", "4"] 1 "go: LOAD r4, 4 ; r4"] := List.mem_singleton_self _
  have hdecode : (Instruction.mk "LOAD" ["r4", "4"] 1 "go: LOAD r4, 4 ; r4").decode "go" {} =
      .error (.badOperand .load (some "r4") (.registerOutOfRange 4) ⟨"go", 1, 10⟩) := rfl
  have hslices : (Source.operandSlices "go: LOAD r4, 4 ; r4".toList).map
      (fun slice => (String.ofList slice.chars, slice.offset)) = [("r4", 9), ("4", 13)] := rfl
  obtain ⟨index, slice, location, _, hslice, hchars, hlocation, _, _, _, _, hexact⟩ :=
    (reported_column_exact hassemble hmem {}).2.2 _ "r4" (.inl hdecode) rfl
  have hentry := List.mem_map_of_mem (f := fun slice : Source.Slice _ =>
    (String.ofList slice.chars, slice.offset)) (List.mem_of_getElem? hslice)
  rw [hslices, hchars, String.ofList_toList] at hentry
  have hoffset : slice.offset = 9 := by simpa using hentry
  cases hlocation
  rw [hoffset] at hexact
  refine ⟨_, _, _, hassemble, hmem, hdecode, ⟨slice, List.mem_of_getElem? hslice, hchars, ?_⟩,
    hexact.mp rfl⟩
  rw [hoffset]

/-- The digit of a register is taken for the value behind it: the value begins in column 9, and the
failure points at column 6. -/
theorem reported_column_inside_register : ∃ program instruction,
    assemble anonymous "ADD r1, 1\n" = .ok program ∧
    program.instructions[0]? = some instruction ∧
    instruction.decode anonymous {} = .error (.badOperand .add (some "1")
      (.notAllowed .immediate [.register]) ⟨anonymous, 1, 6⟩) ∧
    (Source.operandSlices instruction.raw.toList).map
      (fun slice => (String.ofList slice.chars, slice.offset + 1)) = [("r1", 5), ("1", 9)] :=
  ⟨_, _, rfl, rfl, rfl, rfl⟩

end Program

end RegisterMachine
