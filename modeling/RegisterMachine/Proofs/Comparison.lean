import Mathlib.Algebra.Group.Int.Defs
import RegisterMachine.Proofs.History

/-!
Comparisons. Holding a difference to 64 bits changes neither its sign nor whether it is zero, so the
flags of a comparison give the order of the integers. A subtraction keeps 32 bits of the difference,
and loading keeps 32 bits of a value; both can be told from the flags exactly where something is
lost.
-/

namespace RegisterMachine

variable {x : Int}

/-- The flags tell how two integers are ordered. -/
def Flags.Orders (flags : Flags) (left right : Int) : Prop :=
  (flags.zero = true ↔ left = right) ∧ (flags.negative = true ↔ left < right)

@[simp] theorem saturate_eq_zero_iff : saturate x = 0 ↔ x = 0 := by
  unfold saturate
  split
  · omega
  · split <;> omega

@[simp] theorem saturate_neg_iff : saturate x < 0 ↔ x < 0 := by
  unfold saturate
  split
  · omega
  · split <;> omega

theorem Flags.orders_saturate (left right : Int) :
    (ofInt (saturate (left - right))).Orders left right := by
  constructor
  · rw [zero_ofInt, saturate_eq_zero_iff]
    omega
  · rw [negative_ofInt, saturate_neg_iff]
    omega

def FitsWord (x : Int) : Prop :=
  -2 ^ 31 ≤ x ∧ x < 2 ^ 31

theorem toInt_ofInt_eq_iff : (Int32.ofInt x).toInt = x ↔ FitsWord x := by
  have hsize : Int32.size = 4294967296 := rfl
  rw [Int32.toInt_ofInt, hsize, Int.bmod_def, FitsWord]
  omega

section
variable {a b : Int32}

theorem toInt_sub_bounds (a b : Int32) :
    -2 ^ 32 < a.toInt - b.toInt ∧ a.toInt - b.toInt < 2 ^ 32 := by
  have halow := a.le_toInt
  have hblow := b.le_toInt
  have hahigh := a.toInt_lt
  have hbhigh := b.toInt_lt
  omega

theorem toInt_sub_eq_zero_iff : (a - b).toInt = 0 ↔ a.toInt = b.toInt := by
  have hbounds := toInt_sub_bounds a b
  rw [Int32.toInt_sub, Int.bmod_def]
  omega

/-- A difference that leaves 32 bits comes back with the other sign. -/
theorem toInt_sub_neg_iff :
    (a.toInt < b.toInt ↔ (a - b).toInt < 0) ↔ FitsWord (a.toInt - b.toInt) := by
  have hbounds := toInt_sub_bounds a b
  rw [Int32.toInt_sub, Int.bmod_def, FitsWord]
  omega

end

theorem Machine.comparand?_register {machine : Machine} {index : Nat} {word : Int32}
    (h : machine.readRegister? index = some word) :
    machine.comparand? (.register index) = some word.toInt := by
  rw [comparand?, h]
  rfl

namespace Engine

variable {engine : Engine} {instruction : Instruction} {opcode : Opcode}
variable {target index : Nat} {a b : Int32} {value : Int}

/-- An operation that is performed leaves its registers and flags, whether or not the cap is
exceeded. -/
theorem Performs.step_registers_flags {operation : Operation} {flow : Flow} {machine : Machine}
    {channel : Channel} (h : engine.Performs instruction opcode operation flow machine channel) :
    engine.step.2.machine.registers = machine.registers ∧
      engine.step.2.machine.flags = machine.flags := by
  rw [h.step_eq]
  split
  · exact ⟨rfl, rfl⟩
  · cases flow <;> exact ⟨rfl, rfl⟩

theorem Decodes.step_cmp {comparand : Comparand}
    (h : engine.Decodes instruction opcode (.cmp target comparand))
    (htarget : engine.machine.readRegister? target = some a)
    (hcomparand : engine.machine.comparand? comparand = some value) :
    engine.step.2.machine.flags.Orders a.toInt value ∧
      engine.step.2.machine.registers = engine.machine.registers := by
  have heffect : engine.machine.effect? engine.channel (.cmp target comparand) =
      some ({ engine.machine with flags := Flags.ofInt (saturate (a.toInt - value)) },
        engine.channel) := by
    simp only [Machine.effect?, htarget, hcomparand]
    rfl
  have hperforms : engine.Performs instruction opcode (.cmp target comparand) .next _ _ :=
    ⟨h, rfl, heffect⟩
  obtain ⟨hregisters, hflags⟩ := hperforms.step_registers_flags
  rw [hregisters, hflags]
  exact ⟨Flags.orders_saturate a.toInt value, rfl⟩

theorem Decodes.step_sub (h : engine.Decodes instruction opcode (.sub target index))
    (htarget : engine.machine.readRegister? target = some a)
    (hindex : engine.machine.readRegister? index = some b) :
    engine.step.2.machine.flags = Flags.ofInt (a - b).toInt := by
  have hbound : target < engine.machine.registers.size :=
    (Array.getElem?_eq_some_iff.mp htarget).1
  have hwrite := Machine.writeRegister?_eq_some_iff.mpr
    ⟨hbound, (rfl : engine.machine.setRegister target (a - b) = _)⟩
  have heffect : engine.machine.effect? engine.channel (.sub target index) =
      some (engine.machine.setRegister target (a - b), engine.channel) := by
    simp only [Machine.effect?, Machine.combine?, htarget, hindex]
    exact congrArg _ hwrite
  have hperforms : engine.Performs instruction opcode (.sub target index) .next _ _ :=
    ⟨h, rfl, heffect⟩
  exact hperforms.step_registers_flags.2

theorem Decodes.step_load (h : engine.Decodes instruction opcode (.load target (.immediate value)))
    (hrunning : engine.step.2.machine.halted = false) :
    engine.step.2.machine.readRegister? target = some (Int32.ofInt value) := by
  by_cases hbound : target < engine.machine.registers.size
  · have heffect : engine.machine.effect? engine.channel (.load target (.immediate value)) =
        some (engine.machine.setRegister target (Int32.ofInt value), engine.channel) := by
      simp [Machine.effect?, Machine.value?, Machine.writeRegister?, hbound, Machine.setRegister]
    have hperforms : engine.Performs instruction opcode (.load target (.immediate value)) .next
        _ _ := ⟨h, rfl, heffect⟩
    rw [Machine.readRegister?, hperforms.step_registers_flags.1]
    exact Machine.readRegister?_setRegister hbound _
  · -- A register that the machine does not have would have halted it.
    have heffect : engine.machine.effect? engine.channel (.load target (.immediate value)) =
        none := by
      simp [Machine.effect?, Machine.value?, Machine.writeRegister?, hbound]
    rw [(StepRule.stray h heffect).step_eq] at hrunning
    cases hrunning

/-- The flags of a comparison give the order of the integers, and no register changes. A subtraction
of the same registers gives the same flag for zero, and the same flag for a sign exactly when the
difference fits in a register. A value that is loaded and then compared is found the same exactly
when it fits. -/
theorem flags_give_integer_order :
    (∀ (engine : Engine) (instruction : Instruction) (opcode : Opcode) (target index : Nat)
      (a b : Int32), engine.Decodes instruction opcode (.cmp target (.register index)) →
      engine.machine.readRegister? target = some a → engine.machine.readRegister? index = some b →
      engine.step.2.machine.flags.Orders a.toInt b.toInt ∧
        engine.step.2.machine.registers = engine.machine.registers) ∧
    (∀ (engine : Engine) (instruction : Instruction) (opcode : Opcode) (target : Nat) (a : Int32)
      (value : Int), engine.Decodes instruction opcode (.cmp target (.immediate value)) →
      engine.machine.readRegister? target = some a →
      engine.step.2.machine.flags.Orders a.toInt value ∧
        engine.step.2.machine.registers = engine.machine.registers) ∧
    (∀ (engine other : Engine) (instruction another : Instruction) (opcode operator : Opcode)
      (target index : Nat) (a b : Int32),
      engine.Decodes instruction opcode (.cmp target (.register index)) →
      other.Decodes another operator (.sub target index) →
      engine.machine.readRegister? target = some a → engine.machine.readRegister? index = some b →
      other.machine.readRegister? target = some a → other.machine.readRegister? index = some b →
      engine.step.2.machine.flags.zero = other.step.2.machine.flags.zero ∧
        (engine.step.2.machine.flags.negative = other.step.2.machine.flags.negative ↔
          -2 ^ 31 ≤ a.toInt - b.toInt ∧ a.toInt - b.toInt < 2 ^ 31)) ∧
    ∀ (engine : Engine) (instruction another : Instruction) (opcode operator : Opcode)
      (target : Nat) (value : Int),
      engine.Decodes instruction opcode (.load target (.immediate value)) →
      engine.step.2.Decodes another operator (.cmp target (.immediate value)) →
      (engine.step.2.step.2.machine.flags.zero = true ↔ -2 ^ 31 ≤ value ∧ value < 2 ^ 31) := by
  refine ⟨?_, ?_, ?_, ?_⟩
  · intro engine instruction opcode target index a b h htarget hindex
    exact h.step_cmp htarget (Machine.comparand?_register hindex)
  · intro engine instruction opcode target a value h htarget
    exact h.step_cmp htarget rfl
  · intro engine other instruction another opcode operator target index a b hcmp hsub htarget hindex
      hleft hright
    obtain ⟨⟨hzero, hnegative⟩, _⟩ := hcmp.step_cmp htarget (Machine.comparand?_register hindex)
    rw [hsub.step_sub hleft hright]
    constructor
    · rw [Bool.eq_iff_iff, hzero, Flags.zero_ofInt, toInt_sub_eq_zero_iff]
    · rw [Bool.eq_iff_iff, hnegative, Flags.negative_ofInt]
      exact toInt_sub_neg_iff
  · intro engine instruction another opcode operator target value h hnext
    have hloaded := h.step_load hnext.running
    rw [(hnext.step_cmp hloaded rfl).1.1]
    exact toInt_ofInt_eq_iff

set_option maxRecDepth 2000 in
/-- A difference beyond 64 bits, one beyond 32 bits, and a value that a register cannot hold. -/
theorem flags_give_integer_order_beyond :
    ((new {}).serveAll [.load "f" "CMP r0, -9223372036854775808\n",
      .step]).machine.flags.Orders 0 (-9223372036854775808) ∧
    ((new {}).serveAll [.load "f" "LOAD r0, -2147483648\nINC r1\nCMP r0, r1\n", .step, .step,
      .step]).machine.flags.negative ≠
      ((new {}).serveAll [.load "f" "LOAD r0, -2147483648\nINC r1\nSUB r0, r1\n", .step, .step,
        .step]).machine.flags.negative ∧
    ((new {}).serveAll [.load "f" "LOAD r0, 2147483648\nCMP r0, 2147483648\n", .step,
      .step]).machine.flags.zero ≠ true := by
  obtain ⟨_, himmediate, hsame, hloaded⟩ := flags_give_integer_order
  refine ⟨?_, ?_, ?_⟩
  · have hcmp : ((new {}).serveAll [.load "f" "CMP r0, -9223372036854775808\n"]).Decodes
        ⟨"CMP", ["r0", "-9223372036854775808"], 1, "CMP r0, -9223372036854775808"⟩ .cmp
        (.cmp 0 (.immediate (-9223372036854775808))) := ⟨rfl, rfl, rfl⟩
    exact (himmediate _ _ _ _ 0 _ hcmp rfl).1
  · have hcmp : ((new {}).serveAll [.load "f" "LOAD r0, -2147483648\nINC r1\nCMP r0, r1\n", .step,
        .step]).Decodes ⟨"CMP", ["r0", "r1"], 3, "CMP r0, r1"⟩ .cmp (.cmp 0 (.register 1)) :=
      ⟨rfl, rfl, rfl⟩
    have hsub : ((new {}).serveAll [.load "f" "LOAD r0, -2147483648\nINC r1\nSUB r0, r1\n", .step,
        .step]).Decodes ⟨"SUB", ["r0", "r1"], 3, "SUB r0, r1"⟩ .sub (.sub 0 1) :=
      ⟨rfl, rfl, rfl⟩
    have hsigns := (hsame _ _ _ _ _ _ _ _ (-2147483648) 1 hcmp hsub rfl rfl rfl rfl).2
    exact mt hsigns.mp (by decide)
  · have hload : ((new {}).serveAll [.load "f"
        "LOAD r0, 2147483648\nCMP r0, 2147483648\n"]).Decodes
        ⟨"LOAD", ["r0", "2147483648"], 1, "LOAD r0, 2147483648"⟩ .load
        (.load 0 (.immediate 2147483648)) := ⟨rfl, rfl, rfl⟩
    have hcmp : ((new {}).serveAll [.load "f"
        "LOAD r0, 2147483648\nCMP r0, 2147483648\n"]).step.2.Decodes
        ⟨"CMP", ["r0", "2147483648"], 2, "CMP r0, 2147483648"⟩ .cmp
        (.cmp 0 (.immediate 2147483648)) := ⟨rfl, rfl, rfl⟩
    exact mt (hloaded _ _ _ _ _ _ _ hload hcmp).mp (by decide)

end Engine

end RegisterMachine
