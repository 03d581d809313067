import RegisterMachine.Proofs.Literal
import RegisterMachine.Proofs.Printing
import RegisterMachine.Proofs.Progress

/-!
Writing a text with literals. Every character can be spelled between single quotes, where a few need
an escape. A source that loads and writes such literals one after the other assembles without
labels, and writes the text.
-/

namespace RegisterMachine

open Source (Action Statement)
open Source.Quotation

namespace Operand.Literal

def spelling : Char → List Char
  | '\n' => ['\\', 'n']
  | '\r' => ['\\', 'r']
  | '\t' => ['\\', 't']
  | '\\' => ['\\', '\\']
  | '\'' => ['\\', '\'']
  | '"' => ['\\', '"']
  | c => [c]

def literal (c : Char) : String :=
  "'" ++ String.ofList (spelling c) ++ "'"

@[simp] theorem toList_literal (c : Char) :
    (literal c).toList = '\'' :: (spelling c ++ ['\'']) := by
  simp [literal]

/-- What can stand between quotes for a character. -/
inductive Spells : List Char → Char → Prop where
  | plain {c : Char} (hquote : c ≠ '\'') (hslash : c ≠ '\\') (hfeed : c ≠ '\n') : Spells [c] c
  | escape {letter c : Char} (h : escape? letter = some c) : Spells ['\\', letter] c

theorem spells_spelling (c : Char) : Spells (spelling c) c := by
  unfold spelling
  split
  case h_7 hfeed _ _ hslash hquote _ => exact .plain hquote hslash hfeed
  all_goals exact .escape rfl

variable {body : List Char} {c : Char}

theorem Spells.charCode_eq (h : Spells body c) :
    charCode ('\'' :: (body ++ ['\''])) = .ok c.toNat := by
  rw [charCode, body?_quoted rfl body]
  cases h with
  | plain => rfl
  | escape hletter => simp only [hletter]

theorem Spells.classify_eq (h : Spells body c) :
    classify ('\'' :: (body ++ ['\''])) = .immediate := by
  cases h with
  | plain => rfl
  | escape => rfl

theorem Spells.isQuoted_eq (h : Spells body c) : isQuoted ('\'' :: (body ++ ['\''])) = true := by
  cases h with
  | plain => rfl
  | escape => rfl

theorem Spells.not_mem (h : Spells body c) : '\n' ∉ body := by
  cases h with
  | plain hquote hslash hfeed => simpa using hfeed.symm
  | escape hletter =>
    intro hfeed
    obtain rfl : '\n' = _ := by simpa using hfeed
    cases hletter

theorem Spells.free (h : Spells body c) (mark : Char → Bool) :
    Free mark outside ('\'' :: (body ++ ['\''])) :=
  (covered_literal h.isQuoted_eq h.charCode_eq).free mark

theorem Spells.after_quoted (h : Spells body c) :
    outside.after ('\'' :: (body ++ ['\''])) = outside := by
  cases h with
  | plain hquote hslash _ =>
    have hcloses : ¬ (c = '\'' ∨ c = '\\') := not_or.mpr ⟨hquote, hslash⟩
    exact (after_plain rfl c).trans (if_neg hcloses)
  | escape => exact after_escape rfl _

end Operand.Literal

namespace Program

open Operand.Literal (literal toList_literal)

def spelledLines : List Char → List String
  | [] => ["HALT"]
  | c :: rest => ("LOAD r0, " ++ literal c) :: "WRITE r0" :: spelledLines rest

def spelled (text : List Char) : String :=
  Text.written (spelledLines text)

def spelledActions : List Char → List Action
  | [] => [⟨"HALT", []⟩]
  | c :: rest => ⟨"LOAD", ["r0", literal c]⟩ :: ⟨"WRITE", ["r0"]⟩ :: spelledActions rest

@[simp] theorem length_spelledActions (text : List Char) :
    (spelledActions text).length = 2 * text.length + 1 := by
  induction text with
  | nil => rfl
  | cons c rest ih =>
    rw [spelledActions, List.length_cons, List.length_cons, ih, List.length_cons]
    omega

theorem getElem?_spelledActions {text : List Char} {k : Nat} {c : Char} (h : text[k]? = some c) :
    (spelledActions text)[2 * k]? = some ⟨"LOAD", ["r0", literal c]⟩ := by
  induction text generalizing k with
  | nil => cases h
  | cons first rest ih =>
    cases k with
    | zero =>
      cases h
      rfl
    | succ k => exact ih h

theorem writable_literal (c : Char) : Source.Writable [(literal c).toList] := by
  have hspells := Operand.Literal.spells_spelling c
  rw [toList_literal]
  refine Source.writable_nil.cons (hspells.free _) (hspells.free _) hspells.after_quoted
    ⟨⟨'\'', rfl, rfl⟩, ⟨'\'', ?_, rfl⟩⟩ ?_
  · rw [← List.cons_append, List.getLast?_concat]
  · simpa using hspells.not_mem

/-- A line that can be written, and says to do this. -/
structure Reads (line : String) (action : Action) : Prop where
  writable : Text.Writable line
  ofLine_eq : Statement.ofLine line.toList = ⟨none, some action⟩

theorem reads_text (opcode : Opcode) (operands : List String)
    (h : Source.Writable (operands.map String.toList)) :
    Reads (⟨opcode.mnemonic, operands, 0, ""⟩ : Instruction).text ⟨opcode.mnemonic, operands⟩ :=
  ⟨writable_text rfl h, ofLine_text rfl h⟩

theorem reads_halt : Reads "HALT" ⟨"HALT", []⟩ :=
  reads_text .halt [] Source.writable_nil

theorem reads_write : Reads "WRITE r0" ⟨"WRITE", ["r0"]⟩ :=
  reads_text .write ["r0"] (Source.writable_nil.cons_name rfl)

theorem reads_load (c : Char) : Reads ("LOAD r0, " ++ literal c) ⟨"LOAD", ["r0", literal c]⟩ := by
  have htext : "LOAD r0, " ++ literal c =
      (⟨"LOAD", ["r0", literal c], 0, ""⟩ : Instruction).text := by
    apply String.toList_inj.mp
    rw [Instruction.toList_text, String.toList_append]
    simp only [List.map_cons, List.map_nil, Source.operandText, List.intercalate_cons_cons,
      List.intercalate_singleton]
    rfl
  rw [htext]
  exact reads_text .load ["r0", literal c] ((writable_literal c).cons_name rfl)

theorem writable_spelledLines (text : List Char) :
    ∀ line ∈ spelledLines text, Text.Writable line := by
  induction text with
  | nil => exact List.forall_mem_singleton.mpr reads_halt.writable
  | cons c rest ih =>
    rw [spelledLines, List.forall_mem_cons, List.forall_mem_cons]
    exact ⟨(reads_load c).writable, reads_write.writable, ih⟩

theorem ofLine_spelledLines (text : List Char) :
    (spelledLines text).map (Statement.ofLine ·.toList) =
      (spelledActions text).map (⟨none, some ·⟩) := by
  induction text with
  | nil => exact congrArg ([·]) reads_halt.ofLine_eq
  | cons c rest ih =>
    simp only [spelledLines, spelledActions, List.map_cons, ih, (reads_load c).ofLine_eq,
      reads_write.ofLine_eq]

@[simp] theorem placesFrom_actions (count : Nat) (actions : List Action) :
    placesFrom count (actions.map (⟨none, some ·⟩)) = [] := by
  induction actions generalizing count with
  | nil => rfl
  | cons action rest ih => exact ih _

/-- The source assembles, and has no labels. -/
theorem assemble_spelled (name : String) (text : List Char) :
    ∃ program, assemble name (spelled text) = .ok program ∧
      program.actions = spelledActions text ∧ program.labels = [] := by
  have hplaces := placesFrom_actions 0 (spelledActions text)
  obtain ⟨program, hassemble, hactions, hlabels⟩ := assemble_written (writable_spelledLines text)
    (ofLine_spelledLines text) (by rw [hplaces]; exact List.nodup_nil) name
  refine ⟨program, hassemble, ?_, ?_⟩
  · rw [hactions, List.filterMap_map]
    exact List.filterMap_some
  · exact List.map_eq_nil_iff.mp (hlabels.trans hplaces)

section
variable {program : Program} {place : Nat} {action : Action}

theorem exists_of_actions (h : program.actions[place]? = some action) : ∃ instruction,
    program.instructions[place]? = some instruction ∧ instruction.opcode = action.opcode ∧
      instruction.operands = action.operands := by
  rw [actions, List.getElem?_map, Array.getElem?_toList] at h
  obtain ⟨instruction, hinstruction, rfl⟩ := Option.map_eq_some_iff.mp h
  exact ⟨instruction, hinstruction, rfl, rfl⟩

theorem exists_of_drop_actions {rest : List Action}
    (h : program.actions.drop place = action :: rest) :
    (∃ instruction, program.instructions[place]? = some instruction ∧
      instruction.opcode = action.opcode ∧ instruction.operands = action.operands) ∧
    program.actions.drop (place + 1) = rest := by
  constructor
  · apply exists_of_actions
    rw [← List.head?_drop, h]
    rfl
  · rw [← List.tail_drop, h]
    rfl

end

end Program

namespace Operand

theorem resolve_literal (c : Char) (config : Config) {allowed : Kinds}
    (hallowed : Kinds.admits allowed .immediate = true) :
    resolve (Literal.literal c) allowed config = .ok (.immediate c.toNat) := by
  have hspells := Literal.spells_spelling c
  have hkind : classify (Literal.literal c).toList = .immediate := by
    simp [hspells.classify_eq]
  apply resolve_eq_ok_iff.mpr
  unfold Means
  rw [hkind]
  refine ⟨hallowed, c.toNat, rfl, ?_⟩
  unfold immediateValue
  rw [Literal.toList_literal, hspells.isQuoted_eq, if_pos rfl, hspells.charCode_eq]

end Operand

namespace Instruction

variable {instruction : Instruction} {file : String} {cap : Nat}

theorem decode_literal {c : Char} (hopcode : instruction.opcode = "LOAD")
    (hoperands : instruction.operands = ["r0", Operand.Literal.literal c]) :
    instruction.decode file { maxCycles := cap } = .ok (.load, .load 0 (.immediate c.toNat)) := by
  apply decode_eq_ok_iff.mpr
  rw [hopcode, hoperands]
  refine ⟨rfl, rfl, [.register 0, .immediate c.toNat], ?_, rfl⟩
  have hregister : Operand.resolve "r0" [.register] { maxCycles := cap } = .ok (.register 0) := rfl
  have hliteral : Operand.resolve (Operand.Literal.literal c) [.register, .memory, .immediate]
      { maxCycles := cap } = .ok (.immediate c.toNat) := Operand.resolve_literal c _ rfl
  simp only [Opcode.positions, List.zip_cons_cons, List.zip_nil_left, Operand.resolveAll, hregister,
    hliteral]

theorem decode_write (hopcode : instruction.opcode = "WRITE")
    (hoperands : instruction.operands = ["r0"]) :
    instruction.decode file { maxCycles := cap } = .ok (.write, .write 0) := by
  apply decode_eq_ok_iff.mpr
  rw [hopcode, hoperands]
  exact ⟨rfl, rfl, [.register 0], rfl, rfl⟩

theorem decode_halt (hopcode : instruction.opcode = "HALT")
    (hoperands : instruction.operands = []) :
    instruction.decode file { maxCycles := cap } = .ok (.halt, .halt) := by
  apply decode_eq_ok_iff.mpr
  rw [hopcode, hoperands]
  exact ⟨rfl, rfl, [], rfl, rfl⟩

end Instruction

namespace Engine

open Program (spelled spelledActions exists_of_actions exists_of_drop_actions)

/-- What is left of the text is written in two steps for each character and one more. -/
theorem spelled_leads {program : Program} {cap place cycles : Nat} {word : Int32} {flags : Flags}
    {channel : Channel} {text : List Char}
    (hactions : program.actions.drop place = spelledActions text)
    (hcap : cycles + (2 * text.length + 1) ≤ cap) : ∃ final,
      (onRegister program cap place cycles word flags channel).Leads (2 * text.length + 1) final ∧
      final.machine.halted = true ∧
      final.channel.output.toList = channel.output.toList ++ text.map Channel.lowHalf := by
  -- The program itself stays fixed: the induction is on what its rest, seen from here, spells.
  induction text generalizing place cycles word flags channel with
  | nil =>
    obtain ⟨⟨instruction, hcurrent, hopcode, hoperands⟩, _⟩ := exists_of_drop_actions hactions
    exact ⟨_, leads_halt hcurrent (Instruction.decode_halt hopcode hoperands) hcap, rfl,
      (List.append_nil _).symm⟩
  | cons c rest ih =>
    obtain ⟨⟨load, hload, hloadOpcode, hloadOperands⟩, hnext⟩ := exists_of_drop_actions hactions
    obtain ⟨⟨write, hwrite, hwriteOpcode, hwriteOperands⟩, hrest⟩ := exists_of_drop_actions hnext
    rw [List.length_cons] at hcap ⊢
    have hfirst : cycles < cap := by omega
    have hsecond : cycles + 1 < cap := by omega
    have hroom : cycles + 2 + (2 * rest.length + 1) ≤ cap := by omega
    have hloads : (onRegister program cap place cycles word flags channel).Leads 1 _ :=
      leads_load hload (Instruction.decode_literal hloadOpcode hloadOperands) hfirst
    rw [Int32.ofInt_eq_ofNat] at hloads
    have hwrites := hloads.trans
      (leads_write hwrite (Instruction.decode_write hwriteOpcode hwriteOperands) hsecond)
    obtain ⟨final, hleads, hhalted, houtput⟩ := ih hrest hroom
    have hcount : 2 * (rest.length + 1) + 1 = 2 + (2 * rest.length + 1) := by omega
    refine ⟨final, hcount ▸ hwrites.trans hleads, hhalted, ?_⟩
    rw [houtput, Channel.toList_output_write, List.map_cons, List.append_assoc]
    rfl

/-- Every text that the cap allows for is written by its source, on a default machine. -/
theorem execute_spelled (text : List Char) (h : 2 * text.length + 1 ≤ 4096) (name input : String) :
    ∃ program final, Program.assemble name (spelled text) = .ok program ∧
      program.size = 2 * text.length + 1 ∧ program.labels = [] ∧
      (∀ k c, text[k]? = some c → ∃ instruction,
        program.instructions[2 * k]? = some instruction ∧
        instruction.decode name {} = .ok (.load, .load 0 (.immediate c.toNat))) ∧
      (new {}).execute name (spelled text) input = (.ok ⟨true, 2 * text.length + 1⟩, final) ∧
      final.channel.output.toList.map UInt16.toNat = text.map (·.toNat % 65536) := by
  obtain ⟨program, hassemble, hactions, hlabels⟩ := Program.assemble_spelled name text
  have hstart : program.actions.drop 0 = spelledActions text := hactions
  have hroom : 0 + (2 * text.length + 1) ≤ 4096 := by omega
  obtain ⟨final, hleads, hhalted, houtput⟩ := spelled_leads hstart hroom
  refine ⟨program, final, hassemble, ?_, hlabels, ?_, ?_, ?_⟩
  · simp [← Program.length_actions, hactions]
  · intro k c hc
    have haction := Program.getElem?_spelledActions hc
    rw [← hactions] at haction
    obtain ⟨instruction, hinstruction, hopcode, hoperands⟩ := exists_of_actions haction
    exact ⟨instruction, hinstruction, Instruction.decode_literal hopcode hoperands⟩
  · exact (execute_of_assemble hassemble 4096 input).trans (hleads.run_eq hhalted)
  · simp [houtput]

/-- Marks, quotes, blanks and line separators are plain text in a literal. -/
theorem execute_spelled_marks : ∃ program final,
    Program.assemble "marks" (spelled [';', '#', ',', ':', '\'', '"', '\\', '\n', '\u2028', '😀']) =
      .ok program ∧ program.size = 21 ∧ program.labels = [] ∧
    (new {}).execute "marks" (spelled [';', '#', ',', ':', '\'', '"', '\\', '\n', '\u2028', '😀'])
      "" = (.ok ⟨true, 21⟩, final) ∧
    final.channel.output.toList.map UInt16.toNat =
      [0x3B, 0x23, 0x2C, 0x3A, 0x27, 0x22, 0x5C, 0xA, 0x2028, 0xF600] := by
  obtain ⟨program, final, hassemble, hsize, hlabels, _, hexecute, houtput⟩ := execute_spelled
    [';', '#', ',', ':', '\'', '"', '\\', '\n', '\u2028', '😀'] (by decide) "marks" ""
  exact ⟨program, final, hassemble, hsize, hlabels, hexecute, houtput⟩

end Engine

end RegisterMachine
