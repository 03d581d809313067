import RegisterMachine.Operation
import RegisterMachine.Proofs.Operand

/-!
What decoding promises. Operands resolve one by one, and the leftmost that does not is the one
reported. A decoded operation touches only registers and cells that the configuration has, and an
instruction that decodes does so in the same way under every larger configuration. A failure to
decode points at the line of the instruction.
-/

namespace RegisterMachine

namespace Opcode

variable {text : String} {opcode : Opcode}

@[simp] theorem ofMnemonic?_mnemonic (opcode : Opcode) :
    ofMnemonic? opcode.mnemonic = some opcode := by
  cases opcode <;> rfl

theorem ofMnemonic?_eq_some_iff : ofMnemonic? text = some opcode ↔ text = opcode.mnemonic := by
  constructor
  · intro h
    have hfound := List.find?_some h
    exact (beq_iff_eq.mp hfound).symm
  · rintro rfl
    exact ofMnemonic?_mnemonic opcode

theorem ofMnemonic?_eq_none_iff :
    ofMnemonic? text = none ↔ ∀ opcode : Opcode, text ≠ opcode.mnemonic := by
  rw [Option.eq_none_iff_forall_ne_some]
  simp only [ne_eq, ofMnemonic?_eq_some_iff]

end Opcode

namespace ValueSource

def operand : ValueSource → Operand
  | register index => .register index
  | memory address => .memory address
  | immediate value => .immediate value

end ValueSource

namespace Comparand

def operand : Comparand → Operand
  | register index => .register index
  | immediate value => .immediate value

end Comparand

namespace Condition

def all : List Condition := [always, zero, notZero]

def opcode : Condition → Opcode
  | always => .jmp
  | zero => .jz
  | notZero => .jnz

end Condition

/-- When the jump of an opcode is taken; there is no condition if it is no jump. -/
def Opcode.condition? (opcode : Opcode) : Option Condition :=
  Condition.all.find? (·.opcode == opcode)

theorem Opcode.condition?_eq_some_iff {opcode : Opcode} {condition : Condition} :
    opcode.condition? = some condition ↔ condition.opcode = opcode := by
  cases opcode <;> cases condition <;> decide

namespace Operation

def opcode : Operation → Opcode
  | load _ _ => .load
  | store _ _ => .store
  | add _ _ => .add
  | sub _ _ => .sub
  | inc _ => .inc
  | dec _ => .dec
  | cmp _ _ => .cmp
  | jump condition _ => condition.opcode
  | read _ => .read
  | write _ => .write
  | halt => .halt

/-- The operands of an operation, in the order in which they are written. -/
def operands : Operation → List Operand
  | load dest src => [.register dest, src.operand]
  | store src address => [.register src, .memory address]
  | add dest rhs => [.register dest, .register rhs]
  | sub dest rhs => [.register dest, .register rhs]
  | inc target => [.register target]
  | dec target => [.register target]
  | cmp left right => [.register left, right.operand]
  | jump _ label => [.label label]
  | read dest => [.register dest]
  | write src => [.register src]
  | halt => []

def registers : Operation → List Nat
  | load dest (.register src) => [dest, src]
  | load dest _ => [dest]
  | store src _ => [src]
  | add dest rhs => [dest, rhs]
  | sub dest rhs => [dest, rhs]
  | inc target => [target]
  | dec target => [target]
  | cmp left (.register right) => [left, right]
  | cmp left (.immediate _) => [left]
  | jump _ _ => []
  | read dest => [dest]
  | write src => [src]
  | halt => []

def addresses : Operation → List Nat
  | load _ (.memory address) => [address]
  | store _ address => [address]
  | _ => []

/-- Whether all that an operation touches lies inside a machine of these sizes. -/
def Within (registerCount memorySize : Nat) (operation : Operation) : Prop :=
  (∀ index ∈ operation.registers, index < registerCount) ∧
    ∀ address ∈ operation.addresses, address < memorySize

theorem mem_operands (operation : Operation) :
    (∀ index ∈ operation.registers, .register index ∈ operation.operands) ∧
      ∀ address ∈ operation.addresses, .memory address ∈ operation.operands := by
  cases operation with
  | load dest src => cases src <;> simp [registers, addresses, operands, ValueSource.operand]
  | cmp left right => cases right <;> simp [registers, addresses, operands, Comparand.operand]
  | _ => simp [registers, addresses, operands]

theorem ofOperands_ne_splitCharacter (opcode : Opcode) (operands : List Operand)
    (position : Option Nat) : ofOperands opcode operands ≠ .error (position, .splitCharacter) := by
  intro h
  unfold ofOperands at h
  split at h
  case h_1 first second | h_2 first second | h_3 first second | h_4 first second |
      h_7 first second =>
    cases first <;> cases second <;> cases h
  case h_5 target | h_6 target | h_8 target | h_9 target | h_10 target | h_11 target |
      h_12 target =>
    cases target <;> cases h
  case h_13 | h_14 => cases h

/-- An operation keeps its operands in their roles. -/
theorem ofOperands_eq_ok_iff {opcode : Opcode} {operands : List Operand}
    {operation : Operation} : ofOperands opcode operands = .ok operation ↔
      operation.opcode = opcode ∧ operation.operands = operands := by
  constructor
  · intro h
    unfold ofOperands at h
    split at h
    case h_1 first second | h_2 first second | h_3 first second | h_4 first second |
        h_7 first second =>
      cases first <;> cases second <;> cases h <;> exact ⟨rfl, rfl⟩
    case h_5 target | h_6 target | h_8 target | h_9 target | h_10 target | h_11 target |
        h_12 target =>
      cases target <;> cases h
      exact ⟨rfl, rfl⟩
    case h_13 =>
      cases h
      exact ⟨rfl, rfl⟩
    case h_14 => cases h
  · rintro ⟨rfl, rfl⟩
    cases operation with
    | load dest src => cases src <;> rfl
    | cmp left right => cases right <;> rfl
    | jump condition label => cases condition <;> rfl
    | _ => rfl

end Operation

namespace Operand

variable {config larger : Config} {positions : List (String × Kinds)} {operands : List Operand}

/-- Tokens resolve together exactly when each of them does. -/
theorem resolveAll_eq_ok_iff : resolveAll config positions = .ok operands ↔
    positions.map (fun position => resolve position.1 position.2 config) = operands.map .ok := by
  induction positions generalizing operands with
  | nil => cases operands <;> simp [resolveAll]
  | cons position rest ih =>
    rw [resolveAll, List.map_cons]
    cases resolve position.1 position.2 config with
    | error fault => cases operands <;> simp
    | ok operand =>
      cases operands with
      | nil => cases hrest : resolveAll config rest <;> simp
      | cons first others =>
        rw [List.map_cons, List.cons.injEq, ← ih]
        cases resolveAll config rest <;> simp

/-- The failure is that of the leftmost token that does not resolve. -/
theorem resolveAll_eq_error_iff {token : String} {fault : Fault} :
    resolveAll config positions = .error (token, fault) ↔
      ∃ front allowed back, positions = front ++ (token, allowed) :: back ∧
        (∀ position ∈ front, ∃ operand, resolve position.1 position.2 config = .ok operand) ∧
        resolve token allowed config = .error fault := by
  induction positions with
  | nil => simp [resolveAll]
  | cons position rest ih =>
    rw [resolveAll]
    constructor
    · intro h
      cases hfirst : resolve position.1 position.2 config with
      | error found =>
        rw [hfirst] at h
        cases h
        exact ⟨[], position.2, rest, rfl, fun _ hmem => absurd hmem List.not_mem_nil, hfirst⟩
      | ok operand =>
        rw [hfirst] at h
        cases hrest : resolveAll config rest with
        | ok others =>
          rw [hrest] at h
          cases h
        | error found =>
          rw [hrest] at h
          cases h
          obtain ⟨front, allowed, back, rfl, hfront, hfault⟩ := ih.mp hrest
          refine ⟨position :: front, allowed, back, rfl, ?_, hfault⟩
          exact List.forall_mem_cons.mpr ⟨⟨operand, hfirst⟩, hfront⟩
    · rintro ⟨front, allowed, back, hsplit, hfront, hfault⟩
      cases front with
      | nil =>
        obtain ⟨rfl, _⟩ := List.cons.inj hsplit
        simp only [hfault]
      | cons first front =>
        obtain ⟨rfl, hback⟩ := List.cons.inj hsplit
        obtain ⟨⟨operand, hoperand⟩, hothers⟩ := List.forall_mem_cons.mp hfront
        have hrest := ih.mpr ⟨front, allowed, back, hback, hothers, hfault⟩
        simp only [hoperand, hrest]

theorem resolveAll_within (h : resolveAll config positions = .ok operands) :
    ∀ operand ∈ operands, operand.Within config := by
  intro operand hoperand
  have hmem : (.ok operand : Except Fault Operand) ∈ operands.map .ok :=
    List.mem_map_of_mem hoperand
  rw [← resolveAll_eq_ok_iff.mp h] at hmem
  obtain ⟨position, _, hresolve⟩ := List.mem_map.mp hmem
  exact (resolve_eq_ok_iff.mp hresolve).2.within

theorem resolveAll_enlarge (h : resolveAll config positions = .ok operands)
    (hregisters : config.registerCount ≤ larger.registerCount)
    (hmemory : config.memorySize ≤ larger.memorySize) :
    resolveAll larger positions = .ok operands := by
  rw [resolveAll_eq_ok_iff] at h ⊢
  rw [← h]
  apply List.map_congr_left
  intro position hposition
  have hmem : resolve position.1 position.2 config ∈ operands.map .ok := by
    rw [← h]
    exact List.mem_map_of_mem hposition
  obtain ⟨operand, _, hoperand⟩ := List.mem_map.mp hmem
  rw [← hoperand]
  exact resolve_enlarge hoperand.symm hregisters hmemory

theorem resolveAll_eq_error {token : String} {fault : Fault}
    (h : resolveAll config positions = .error (token, fault)) :
    ∃ allowed, (token, allowed) ∈ positions ∧ resolve token allowed config = .error fault := by
  obtain ⟨front, allowed, back, rfl, _, hfault⟩ := resolveAll_eq_error_iff.mp h
  exact ⟨allowed, List.mem_append_right front List.mem_cons_self, hfault⟩

theorem exists_resolveAll_iff : (∃ operands, resolveAll config positions = .ok operands) ↔
    ∀ position ∈ positions, ∃ operand, resolve position.1 position.2 config = .ok operand := by
  constructor
  · rintro ⟨operands, h⟩ position hposition
    have hmem := List.mem_map_of_mem (f := fun position => resolve position.1 position.2 config)
      hposition
    rw [resolveAll_eq_ok_iff.mp h] at hmem
    obtain ⟨operand, _, hoperand⟩ := List.mem_map.mp hmem
    exact ⟨operand, hoperand.symm⟩
  · intro h
    cases hresolved : resolveAll config positions with
    | ok operands => exact ⟨operands, rfl⟩
    | error found =>
      obtain ⟨allowed, hmem, hfault⟩ := resolveAll_eq_error hresolved
      obtain ⟨operand, hoperand⟩ := h _ hmem
      cases hfault.symm.trans hoperand

end Operand

namespace Instruction

theorem decode_eq_ok_iff {instruction : Instruction} {file : String} {config : Config}
    {opcode : Opcode} {operation : Operation} :
    instruction.decode file config = .ok (opcode, operation) ↔
      Opcode.ofMnemonic? instruction.opcode = some opcode ∧
      instruction.operands.length = opcode.positions.length ∧
      ∃ operands, Operand.resolveAll config (instruction.operands.zip opcode.positions) =
          .ok operands ∧ Operation.ofOperands opcode operands = .ok operation := by
  unfold decode
  constructor
  · intro h
    split at h
    · cases h
    · rename_i found hfound
      simp only at h
      split at h
      · rename_i hlength
        split at h
        · cases h
        · rename_i operands hoperands
          split at h
          · cases h
            exact ⟨hfound, hlength, operands, hoperands, ‹_›⟩
          · cases h
      · cases h
  · rintro ⟨hopcode, hlength, operands, hoperands, hoperation⟩
    simp only [hopcode, hlength, ite_true, hoperands, hoperation]

/-- A decoded operation stays inside the machines of the configuration. -/
theorem decode_within {instruction : Instruction} {file : String} {config : Config}
    {opcode : Opcode} {operation : Operation}
    (h : instruction.decode file config = .ok (opcode, operation)) :
    operation.Within config.registerCount config.memorySize := by
  obtain ⟨_, _, operands, hoperands, hoperation⟩ := decode_eq_ok_iff.mp h
  have hwithin := Operand.resolveAll_within hoperands
  obtain ⟨rfl, rfl⟩ := Operation.ofOperands_eq_ok_iff.mp hoperation
  obtain ⟨hregisters, haddresses⟩ := operation.mem_operands
  exact ⟨fun index hindex => hwithin _ (hregisters index hindex),
    fun address haddress => hwithin _ (haddresses address haddress)⟩

/-- More registers and more memory take no meaning away. -/
theorem decode_enlarge {instruction : Instruction} {file : String} {config larger : Config}
    {opcode : Opcode} {operation : Operation}
    (h : instruction.decode file config = .ok (opcode, operation))
    (hregisters : config.registerCount ≤ larger.registerCount)
    (hmemory : config.memorySize ≤ larger.memorySize) :
    instruction.decode file larger = .ok (opcode, operation) := by
  obtain ⟨hopcode, hlength, operands, hoperands, hoperation⟩ := decode_eq_ok_iff.mp h
  exact decode_eq_ok_iff.mpr ⟨hopcode, hlength, operands,
    Operand.resolveAll_enlarge hoperands hregisters hmemory, hoperation⟩

theorem decode_eq_error {instruction : Instruction} {file : String} {config : Config}
    {failure : Failure} (h : instruction.decode file config = .error failure) :
    failure = .unknownOpcode instruction.opcode
        (instruction.locate file (some instruction.opcode)) ∨
      ∃ opcode token fault, (∀ found ∈ token, found ∈ instruction.operands) ∧
        fault ≠ .splitCharacter ∧
        failure = .badOperand opcode token fault (instruction.locate file token) := by
  unfold decode at h
  split at h
  · cases h
    exact .inl rfl
  · rename_i opcode _
    refine .inr ⟨opcode, ?_⟩
    simp only at h
    split at h
    · split at h
      · rename_i token fault hfault
        cases h
        obtain ⟨allowed, hmem, hresolve⟩ := Operand.resolveAll_eq_error hfault
        refine ⟨some token, fault, ?_, ?_, rfl⟩
        · rintro _ ⟨⟩
          exact (List.of_mem_zip hmem).1
        · rintro rfl
          exact Operand.resolve_ne_splitCharacter _ _ _ hresolve
      · split at h
        · cases h
        · rename_i operands _ position fault hmisfit
          cases h
          refine ⟨_, fault, ?_, ?_, rfl⟩
          · intro found hfound
            obtain ⟨index, _, hindex⟩ := Option.bind_eq_some_iff.mp hfound
            exact List.mem_of_getElem? hindex
          · rintro rfl
            exact Operation.ofOperands_ne_splitCharacter _ _ _ hmisfit
    · cases h
      refine ⟨none, _, ?_, ?_, rfl⟩
      · intro found hfound
        cases hfound
      · intro harity
        cases harity

end Instruction

end RegisterMachine
