import RegisterMachine.Proofs.Decoding
import RegisterMachine.Proofs.Grammar

/-!
Decoding and the table of admitted kinds. The operands of an operation can be read off it again,
each in its place, so decoding loses none of them and mixes none up. The table and the shapes of
operations agree: operands of admitted kinds always make up an operation. What is left to fail is
the mnemonic, the number of operands, and the operands themselves from left to right.
-/

namespace RegisterMachine

namespace Operand

/-- Each operand is of a kind that its position admits. -/
def Fits : List Operand → List Kinds → Prop
  | [], [] => True
  | operand :: operands, allowed :: positions => operand.kind ∈ allowed ∧ Fits operands positions
  | _, _ => False

variable {operands : List Operand} {positions : List Kinds} {allowed first second : Kinds}

theorem Fits.exists_one (h : Fits operands [allowed]) :
    ∃ operand, operands = [operand] ∧ operand.kind ∈ allowed := by
  match operands, h with
  | [operand], h => exact ⟨operand, rfl, h.1⟩

theorem Fits.exists_two (h : Fits operands [first, second]) :
    ∃ left right, operands = [left, right] ∧ left.kind ∈ first ∧ right.kind ∈ second := by
  match operands, h with
  | [left, right], h => exact ⟨left, right, rfl, h.1, h.2.1⟩

theorem eq_register_of_kind {operand : Operand} (h : operand.kind ∈ [Kind.register]) :
    ∃ index, operand = .register index := by
  cases operand with
  | register index => exact ⟨index, rfl⟩
  | memory | immediate | label => cases List.mem_singleton.mp h

theorem fits_of_resolveAll {config : Config} {tokens : List String}
    (hlength : tokens.length = positions.length)
    (h : resolveAll config (tokens.zip positions) = .ok operands) : Fits operands positions := by
  rw [resolveAll_eq_ok_iff] at h
  induction tokens generalizing positions operands with
  | nil =>
    obtain rfl := List.length_eq_zero_iff.mp hlength.symm
    obtain rfl : operands = [] := by simpa using h.symm
    trivial
  | cons token tokens ih =>
    match positions, hlength with
    | allowed :: positions, hlength =>
      rw [List.zip_cons_cons, List.map_cons] at h
      match operands, h with
      | operand :: operands, h =>
        obtain ⟨hfirst, hrest⟩ := List.cons.inj h
        exact ⟨(resolve_eq_ok_iff_denotes.mp hfirst).1, ih (Nat.succ.inj hlength) hrest⟩

end Operand

namespace Operation

open Operand (Fits eq_register_of_kind)

/-- Operands of admitted kinds make up an operation. -/
theorem exists_of_fits {opcode : Opcode} {operands : List Operand}
    (h : Fits operands opcode.positions) :
    ∃ operation, ofOperands opcode operands = .ok operation := by
  cases opcode with
  | load =>
    obtain ⟨dest, src, rfl, hdest, hsrc⟩ := h.exists_two
    obtain ⟨index, rfl⟩ := eq_register_of_kind hdest
    cases src with
    | register | memory | immediate => exact ⟨_, rfl⟩
    | label => simp [Operand.kind] at hsrc
  | store =>
    obtain ⟨src, dest, rfl, hsrc, hdest⟩ := h.exists_two
    obtain ⟨index, rfl⟩ := eq_register_of_kind hsrc
    cases dest with
    | memory => exact ⟨_, rfl⟩
    | register | immediate | label => simp [Operand.kind] at hdest
  | add | sub =>
    obtain ⟨dest, rhs, rfl, hdest, hrhs⟩ := h.exists_two
    obtain ⟨index, rfl⟩ := eq_register_of_kind hdest
    obtain ⟨other, rfl⟩ := eq_register_of_kind hrhs
    exact ⟨_, rfl⟩
  | cmp =>
    obtain ⟨left, right, rfl, hleft, hright⟩ := h.exists_two
    obtain ⟨index, rfl⟩ := eq_register_of_kind hleft
    cases right with
    | register | immediate => exact ⟨_, rfl⟩
    | memory | label => simp [Operand.kind] at hright
  | inc | dec | read | write =>
    obtain ⟨target, rfl, htarget⟩ := h.exists_one
    obtain ⟨index, rfl⟩ := eq_register_of_kind htarget
    exact ⟨_, rfl⟩
  | jmp | jz | jnz =>
    obtain ⟨target, rfl, htarget⟩ := h.exists_one
    cases target with
    | label => exact ⟨_, rfl⟩
    | register | memory | immediate => simp [Operand.kind] at htarget
  | halt =>
    match operands, h with
    | [], _ => exact ⟨_, rfl⟩

end Operation

namespace Instruction

variable {instruction : Instruction} {file : String} {config : Config} {opcode : Opcode}
variable {operation : Operation} {failure : Failure}

/-- The tokens of an instruction, each with the kinds that the opcode admits in its place. -/
def placed (instruction : Instruction) (opcode : Opcode) : List (String × Operand.Kinds) :=
  instruction.operands.zip opcode.positions

/-- Why an instruction has no operation: a mnemonic that no opcode has, or else a wrong number of
operands, or else the leftmost operand that does not resolve. -/
inductive Refused (instruction : Instruction) (file : String) (config : Config) :
    Failure → Prop where
  | opcode (hopcode : ∀ opcode : Opcode, instruction.opcode ≠ opcode.mnemonic) :
      Refused instruction file config
        (.unknownOpcode instruction.opcode (instruction.locate file (some instruction.opcode)))
  | arity {opcode : Opcode} (hopcode : instruction.opcode = opcode.mnemonic)
      (hlength : instruction.operands.length ≠ opcode.positions.length) :
      Refused instruction file config
        (.badOperand opcode none (.arity opcode.positions.length instruction.operands.length)
          (instruction.locate file none))
  | operand {opcode : Opcode} {front back : List (String × Operand.Kinds)} {token : String}
      {allowed : Operand.Kinds} {fault : Operand.Fault}
      (hopcode : instruction.opcode = opcode.mnemonic)
      (hlength : instruction.operands.length = opcode.positions.length)
      (hplaced : instruction.placed opcode = front ++ (token, allowed) :: back)
      (hfront : ∀ position ∈ front, ∃ operand,
        Operand.resolve position.1 position.2 config = .ok operand)
      (hfault : Operand.resolve token allowed config = .error fault) :
      Refused instruction file config
        (.badOperand opcode (some token) fault (instruction.locate file (some token)))

theorem exists_operation {operands : List Operand}
    (hlength : instruction.operands.length = opcode.positions.length)
    (h : Operand.resolveAll config (instruction.placed opcode) = .ok operands) :
    ∃ operation, Operation.ofOperands opcode operands = .ok operation :=
  Operation.exists_of_fits (Operand.fits_of_resolveAll hlength h)

theorem decode_eq_ok_iff_placed : instruction.decode file config = .ok (opcode, operation) ↔
    instruction.opcode = opcode.mnemonic ∧
    instruction.operands.length = opcode.positions.length ∧ operation.opcode = opcode ∧
    (instruction.placed opcode).map (fun position =>
      Operand.resolve position.1 position.2 config) = operation.operands.map .ok := by
  rw [decode_eq_ok_iff, Opcode.ofMnemonic?_eq_some_iff]
  constructor
  · rintro ⟨hopcode, hlength, operands, hoperands, hoperation⟩
    obtain ⟨hsame, rfl⟩ := Operation.ofOperands_eq_ok_iff.mp hoperation
    exact ⟨hopcode, hlength, hsame, Operand.resolveAll_eq_ok_iff.mp hoperands⟩
  · rintro ⟨hopcode, hlength, hsame, hplaced⟩
    refine ⟨hopcode, hlength, operation.operands, Operand.resolveAll_eq_ok_iff.mpr hplaced, ?_⟩
    exact Operation.ofOperands_eq_ok_iff.mpr ⟨hsame, rfl⟩

theorem decode_of_resolveAll_error {token : String} {fault : Operand.Fault}
    (hopcode : instruction.opcode = opcode.mnemonic)
    (hlength : instruction.operands.length = opcode.positions.length)
    (h : Operand.resolveAll config (instruction.placed opcode) = .error (token, fault)) :
    instruction.decode file config =
      .error (.badOperand opcode (some token) fault (instruction.locate file (some token))) := by
  rw [placed] at h
  simp only [decode, refuse, Opcode.ofMnemonic?_eq_some_iff.mpr hopcode, if_pos hlength, h]

theorem decode_eq_error_iff_refused :
    instruction.decode file config = .error failure ↔ instruction.Refused file config failure := by
  constructor
  · intro h
    cases hopcode : Opcode.ofMnemonic? instruction.opcode with
    | none =>
      simp only [decode, hopcode] at h
      cases h
      exact .opcode (Opcode.ofMnemonic?_eq_none_iff.mp hopcode)
    | some opcode =>
      have hmnemonic := Opcode.ofMnemonic?_eq_some_iff.mp hopcode
      by_cases hlength : instruction.operands.length = opcode.positions.length
      · cases hresolved : Operand.resolveAll config (instruction.placed opcode) with
        | error found =>
          obtain ⟨front, allowed, back, hplaced, hfront, hfault⟩ :=
            Operand.resolveAll_eq_error_iff.mp hresolved
          cases h.symm.trans (decode_of_resolveAll_error hmnemonic hlength hresolved)
          exact .operand hmnemonic hlength hplaced hfront hfault
        | ok operands =>
          -- Here the operands would have to fail as a whole, and they never do.
          obtain ⟨operation, hoperation⟩ := exists_operation hlength hresolved
          cases h.symm.trans
            (decode_eq_ok_iff.mpr ⟨hopcode, hlength, operands, hresolved, hoperation⟩)
      · simp only [decode, hopcode, if_neg hlength] at h
        cases h
        exact .arity hmnemonic hlength
  · intro h
    cases h with
    | opcode hopcode => simp only [decode, Opcode.ofMnemonic?_eq_none_iff.mpr hopcode]
    | arity hopcode hlength =>
      simp only [decode, refuse, Opcode.ofMnemonic?_eq_some_iff.mpr hopcode, if_neg hlength]
    | operand hopcode hlength hplaced hfront hfault =>
      have hresolved := Operand.resolveAll_eq_error_iff.mpr ⟨_, _, _, hplaced, hfront, hfault⟩
      exact decode_of_resolveAll_error hopcode hlength hresolved

/-- Decoding applies the table of admitted kinds from left to right. It succeeds exactly for a known
mnemonic with as many operands as it takes, each of which resolves in its place, and the operation
holds these operands in their roles, inside the machine. All else fails for the first reason there
is; once the operands resolve, nothing is left to fail. -/
theorem decode_by_table (instruction : Instruction) (file : String) (config : Config) :
    ((∃ decoded, instruction.decode file config = .ok decoded) ↔
      ∃ opcode : Opcode, instruction.opcode = opcode.mnemonic ∧
        instruction.operands.length = opcode.positions.length ∧
        ∀ position ∈ instruction.placed opcode, ∃ operand,
          Operand.resolve position.1 position.2 config = .ok operand) ∧
    (∀ opcode operation, instruction.decode file config = .ok (opcode, operation) ↔
      instruction.opcode = opcode.mnemonic ∧
      instruction.operands.length = opcode.positions.length ∧ operation.opcode = opcode ∧
      (instruction.placed opcode).map (fun position =>
        Operand.resolve position.1 position.2 config) = operation.operands.map .ok) ∧
    (∀ opcode operation, instruction.decode file config = .ok (opcode, operation) →
      operation.Within config.registerCount config.memorySize) ∧
    (∀ failure, instruction.decode file config = .error failure ↔
      instruction.Refused file config failure) ∧
    ∀ opcode operands, instruction.operands.length = opcode.positions.length →
      Operand.resolveAll config (instruction.placed opcode) = .ok operands →
      ∃ operation, Operation.ofOperands opcode operands = .ok operation := by
  refine ⟨⟨?_, ?_⟩, fun opcode operation => decode_eq_ok_iff_placed,
    fun opcode operation => decode_within, fun failure => decode_eq_error_iff_refused,
    fun opcode operands => exists_operation⟩
  · rintro ⟨⟨opcode, operation⟩, h⟩
    obtain ⟨hopcode, hlength, operands, hoperands, _⟩ := decode_eq_ok_iff.mp h
    exact ⟨opcode, Opcode.ofMnemonic?_eq_some_iff.mp hopcode, hlength,
      Operand.exists_resolveAll_iff.mp ⟨operands, hoperands⟩⟩
  · rintro ⟨opcode, hopcode, hlength, hresolve⟩
    obtain ⟨operands, hoperands⟩ := Operand.exists_resolveAll_iff.mpr hresolve
    obtain ⟨operation, hoperation⟩ := exists_operation hlength hoperands
    have hmnemonic := Opcode.ofMnemonic?_eq_some_iff.mpr hopcode
    exact ⟨_, decode_eq_ok_iff.mpr ⟨hmnemonic, hlength, operands, hoperands, hoperation⟩⟩

/-- Of two operands without a meaning the left one is reported, and the number of operands before
either of them. -/
theorem decode_by_table_leftmost :
    (Instruction.mk "LOAD" ["r9", "0x"] 1 "LOAD r9, 0x").decode "f" {} =
      .error (.badOperand .load (some "r9") (.registerOutOfRange 4) ⟨"f", 1, 6⟩) ∧
    (Instruction.mk "CMP" ["@", "0x", "1"] 1 "CMP @, 0x, 1").decode "f" {} =
      .error (.badOperand .cmp none (.arity 2 3) ⟨"f", 1, 1⟩) := by
  constructor
  · apply ((decode_by_table _ "f" {}).2.2.2.1 _).mpr
    have hplaced : (Instruction.mk "LOAD" ["r9", "0x"] 1 "LOAD r9, 0x").placed .load =
        [] ++ ("r9", [.register]) :: [("0x", [.register, .memory, .immediate])] := rfl
    exact .operand rfl rfl hplaced (fun _ hposition => absurd hposition List.not_mem_nil) rfl
  · apply ((decode_by_table _ "f" {}).2.2.2.1 _).mpr
    have hlength : ["@", "0x", "1"].length ≠ Opcode.cmp.positions.length := by decide
    exact .arity rfl hlength

end Instruction

end RegisterMachine
