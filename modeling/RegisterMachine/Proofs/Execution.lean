import RegisterMachine.Machine.Execution
import RegisterMachine.Proofs.Decoding

/-!
What the effect of an operation can be. An operation has an effect exactly where all that it
touches lies inside the machine. `Acts` is the effect of each operation, and `Effect` forgets which
operation it was: it writes one register, one cell, the flags or one output code, and leaves control
alone.
-/

namespace RegisterMachine

/-- No value is both zero and negative. -/
def Flags.Consistent (flags : Flags) : Prop :=
  ¬ (flags.zero = true ∧ flags.negative = true)

theorem Flags.ofInt_consistent (value : Int) : (Flags.ofInt value).Consistent := by
  simp only [Consistent, ofInt, beq_iff_eq, decide_eq_true_eq]
  omega

@[simp] theorem Flags.zero_ofInt {value : Int} : (ofInt value).zero = true ↔ value = 0 := by
  rw [ofInt, beq_iff_eq]

@[simp] theorem Flags.negative_ofInt {value : Int} : (ofInt value).negative = true ↔ value < 0 := by
  rw [ofInt, decide_eq_true_eq]

theorem toInt_eq_bmod (value : Int32) :
    value.toInt = (value.toUInt32.toNat : Int).bmod 4294967296 :=
  BitVec.toInt_eq_toNat_bmod _

theorem toNat_toUInt8_word (value : Int32) :
    (value.toUInt32.toUInt8.toNat : Int) = value.toInt % 256 := by
  rw [toInt_eq_bmod, UInt32.toNat_toUInt8, Int.bmod_def]
  omega

theorem toNat_toUInt16_word (value : Int32) :
    (value.toUInt32.toUInt16.toNat : Int) = value.toInt % 65536 := by
  rw [toInt_eq_bmod, UInt32.toNat_toUInt16, Int.bmod_def]
  omega

namespace Channel

variable {channel : Channel} {c : Char}

theorem read_of_some (h : channel.input[channel.cursor]? = some c) :
    channel.read = (Int32.ofNat c.toNat, { channel with cursor := channel.cursor + 1 }) := by
  simp only [read, h]

theorem read_of_none (h : channel.input[channel.cursor]? = none) :
    channel.read = (endOfInput, channel) := by
  simp only [read, h]

@[simp] theorem output_read (channel : Channel) : channel.read.2.output = channel.output := by
  unfold read
  split <;> rfl

@[simp] theorem input_read (channel : Channel) : channel.read.2.input = channel.input := by
  unfold read
  split <;> rfl

theorem cursor_read (channel : Channel) : channel.read.2.cursor =
    if channel.cursor < channel.input.size then channel.cursor + 1 else channel.cursor := by
  by_cases hleft : channel.cursor < channel.input.size
  · rw [if_pos hleft, read_of_some (Array.getElem?_eq_getElem hleft)]
  · rw [if_neg hleft, read_of_none (Array.getElem?_eq_none (Nat.le_of_not_lt hleft))]

end Channel

namespace Operation

def dest? : Operation → Option Nat
  | load dest _ | add dest _ | sub dest _ | inc dest | dec dest | read dest => some dest
  | store _ _ | cmp _ _ | jump _ _ | write _ | halt => none

end Operation

namespace Machine

variable {machine after : Machine} {channel received : Channel} {operation : Operation}

/-- The machine with a word put into a register, and its flags set from it. -/
def setRegister (machine : Machine) (index : Nat) (value : Int32) : Machine :=
  { machine with
    registers := machine.registers.setIfInBounds index value
    flags := Flags.ofInt value.toInt }

/-- The machine with the low byte of a word put into a memory cell. -/
def setMemory (machine : Machine) (address : Nat) (value : Int32) : Machine :=
  { machine with memory := machine.memory.setIfInBounds address value.toUInt32.toUInt8 }

theorem readRegister?_setRegister {index : Nat} (h : index < machine.registers.size)
    (value : Int32) : (machine.setRegister index value).readRegister? index = some value := by
  rw [readRegister?, setRegister, Array.getElem?_setIfInBounds_self_of_lt h]

theorem readRegister?_setRegister_of_ne {index other : Nat} (h : index ≠ other) (value : Int32) :
    (machine.setRegister index value).readRegister? other = machine.readRegister? other := by
  rw [readRegister?, setRegister, Array.getElem?_setIfInBounds_ne h, readRegister?]

theorem getElem?_setMemory {address : Nat} (h : address < machine.memory.size) (value : Int32) :
    (machine.setMemory address value).memory[address]? = some value.toUInt32.toUInt8 := by
  rw [setMemory, Array.getElem?_setIfInBounds_self_of_lt h]

theorem getElem?_setMemory_of_ne {address other : Nat} (h : address ≠ other) (value : Int32) :
    (machine.setMemory address value).memory[other]? = machine.memory[other]? := by
  rw [setMemory, Array.getElem?_setIfInBounds_ne h]

theorem writeRegister?_eq_some_iff {index : Nat} {value : Int32} :
    machine.writeRegister? index value = some after ↔
      index < machine.registers.size ∧ machine.setRegister index value = after := by
  simp [writeRegister?, setRegister]

theorem writeMemory?_eq_some_iff {address : Nat} {value : Int32} :
    machine.writeMemory? address value = some after ↔
      address < machine.memory.size ∧ machine.setMemory address value = after := by
  simp [writeMemory?, setMemory]

@[simp] theorem isSome_readRegister? (index : Nat) :
    (machine.readRegister? index).isSome = decide (index < machine.registers.size) := by
  rw [Bool.eq_iff_iff]
  simp [readRegister?]

@[simp] theorem isSome_readMemory? (address : Nat) :
    (machine.readMemory? address).isSome = decide (address < machine.memory.size) := by
  rw [Bool.eq_iff_iff]
  simp [readMemory?]

@[simp] theorem isSome_writeRegister? (index : Nat) (value : Int32) :
    (machine.writeRegister? index value).isSome = decide (index < machine.registers.size) := by
  unfold writeRegister?
  split <;> simp_all

@[simp] theorem isSome_writeMemory? (address : Nat) (value : Int32) :
    (machine.writeMemory? address value).isSome = decide (address < machine.memory.size) := by
  unfold writeMemory?
  split <;> simp_all

theorem any_const {α : Type} (x : Option α) (b : Bool) : (x.any fun _ => b) = (x.isSome && b) := by
  cases x <;> simp

/-- An operation has an effect exactly where it stays inside the machine. -/
theorem isSome_effect?_iff :
    (machine.effect? channel operation).isSome = true ↔
      operation.Within machine.registers.size machine.memory.size := by
  unfold Operation.Within
  cases operation with
  | load dest src =>
    cases src <;> simp [effect?, value?, Option.isSome_bind, any_const, Operation.registers,
      Operation.addresses, and_comm]
  | store src address =>
    simp [effect?, Option.isSome_bind, any_const, Operation.registers, Operation.addresses]
  | add dest rhs | sub dest rhs =>
    simp only [effect?, combine?, Option.isSome_map, Option.bind_eq_bind, Option.isSome_bind,
      isSome_writeRegister?, any_const, isSome_readRegister?, Operation.registers,
      Operation.addresses]
    simp +contextual
  | inc target | dec target =>
    simp [effect?, update?, Option.isSome_bind, any_const, Operation.registers,
      Operation.addresses]
  | cmp left right =>
    cases right <;> simp [effect?, comparand?, Option.isSome_bind, any_const,
      Operation.registers, Operation.addresses, and_comm]
  | read dest =>
    simp [effect?, Option.isSome_bind, Operation.registers, Operation.addresses]
  | write src =>
    simp [effect?, Option.isSome_bind, Operation.registers, Operation.addresses]
  | jump _ _ | halt => simp [effect?, Operation.registers, Operation.addresses]

/-- The effect of each operation. All those that compute a word have the same one. -/
inductive Acts (machine : Machine) (channel : Channel) : Operation → Machine → Channel → Prop where
  | compute {operation : Operation} {dest : Nat} {value : Int32}
      (hdest : operation.dest? = some dest) (hread : ∀ target, operation ≠ .read target)
      (hbound : dest < machine.registers.size) :
      Acts machine channel operation (machine.setRegister dest value) channel
  | read {dest : Nat} (hbound : dest < machine.registers.size) :
      Acts machine channel (.read dest) (machine.setRegister dest channel.read.1) channel.read.2
  | store {src address : Nat} {value : Int32} (hsrc : machine.readRegister? src = some value)
      (hbound : address < machine.memory.size) :
      Acts machine channel (.store src address) (machine.setMemory address value) channel
  | cmp {left : Nat} {right : Comparand} {value : Int} :
      Acts machine channel (.cmp left right) { machine with flags := Flags.ofInt value } channel
  | write {src : Nat} {value : Int32} (hsrc : machine.readRegister? src = some value) :
      Acts machine channel (.write src) machine (channel.write value)
  | jump {condition : Condition} {label : String} :
      Acts machine channel (.jump condition label) machine channel
  | halt : Acts machine channel .halt machine channel

theorem lt_of_combine? {op : Int32 → Int32 → Int32} {dest rhs : Nat}
    (h : machine.combine? op dest rhs = some after) :
    dest < machine.registers.size ∧ ∃ value, machine.setRegister dest value = after := by
  simp only [combine?, Option.bind_eq_bind, Option.bind_eq_some_iff,
    writeRegister?_eq_some_iff] at h
  obtain ⟨left, _, right, _, hbound, hafter⟩ := h
  exact ⟨hbound, _, hafter⟩

theorem lt_of_update? {op : Int32 → Int32} {target : Nat}
    (h : machine.update? op target = some after) :
    target < machine.registers.size ∧ ∃ value, machine.setRegister target value = after := by
  simp only [update?, Option.bind_eq_bind, Option.bind_eq_some_iff,
    writeRegister?_eq_some_iff] at h
  obtain ⟨value, _, hbound, hafter⟩ := h
  exact ⟨hbound, _, hafter⟩

theorem acts_of_effect? (h : machine.effect? channel operation = some (after, received)) :
    Acts machine channel operation after received := by
  cases operation with
  | load dest src =>
    simp only [effect?, Option.bind_eq_bind, Option.bind_eq_some_iff, writeRegister?_eq_some_iff,
      Option.pure_def, Option.some.injEq, Prod.mk.injEq] at h
    obtain ⟨value, _, _, ⟨hbound, rfl⟩, rfl, rfl⟩ := h
    exact .compute rfl nofun hbound
  | store src address =>
    simp only [effect?, Option.bind_eq_bind, Option.bind_eq_some_iff, writeMemory?_eq_some_iff,
      Option.pure_def, Option.some.injEq, Prod.mk.injEq] at h
    obtain ⟨value, hsrc, _, ⟨hbound, rfl⟩, rfl, rfl⟩ := h
    exact .store hsrc hbound
  | add dest rhs | sub dest rhs =>
    simp only [effect?, Option.map_eq_some_iff, Prod.mk.injEq] at h
    obtain ⟨_, hafter, rfl, rfl⟩ := h
    obtain ⟨hbound, value, rfl⟩ := lt_of_combine? hafter
    exact .compute rfl nofun hbound
  | inc target | dec target =>
    simp only [effect?, Option.map_eq_some_iff, Prod.mk.injEq] at h
    obtain ⟨_, hafter, rfl, rfl⟩ := h
    obtain ⟨hbound, value, rfl⟩ := lt_of_update? hafter
    exact .compute rfl nofun hbound
  | cmp left right =>
    simp only [effect?, Option.bind_eq_bind, Option.bind_eq_some_iff, Option.pure_def,
      Option.some.injEq, Prod.mk.injEq] at h
    obtain ⟨rhs, _, lhs, _, rfl, rfl⟩ := h
    exact .cmp
  | read dest =>
    simp only [effect?, Option.bind_eq_bind, Option.bind_eq_some_iff, writeRegister?_eq_some_iff,
      Option.pure_def, Option.some.injEq, Prod.mk.injEq] at h
    obtain ⟨_, ⟨hbound, rfl⟩, rfl, rfl⟩ := h
    exact .read hbound
  | write src =>
    simp only [effect?, Option.bind_eq_bind, Option.bind_eq_some_iff, Option.pure_def,
      Option.some.injEq, Prod.mk.injEq] at h
    obtain ⟨value, hsrc, rfl, rfl⟩ := h
    exact .write hsrc
  | jump condition label =>
    simp only [effect?, Option.some.injEq, Prod.mk.injEq] at h
    obtain ⟨rfl, rfl⟩ := h
    exact .jump
  | halt =>
    simp only [effect?, Option.some.injEq, Prod.mk.injEq] at h
    obtain ⟨rfl, rfl⟩ := h
    exact .halt

/-- What an operation can do to a machine and its channel. -/
inductive Effect (machine : Machine) (channel : Channel) : Machine → Channel → Prop where
  | register (index : Nat) (value : Int32) :
      Effect machine channel (machine.setRegister index value) channel
  | memory (address : Nat) (value : Int32) :
      Effect machine channel (machine.setMemory address value) channel
  | flags (value : Int) :
      Effect machine channel { machine with flags := Flags.ofInt value } channel
  | input (index : Nat) :
      Effect machine channel (machine.setRegister index channel.read.1) channel.read.2
  | output (value : Int32) : Effect machine channel machine (channel.write value)
  | nothing : Effect machine channel machine channel

theorem Acts.effect (h : Acts machine channel operation after received) :
    Effect machine channel after received := by
  cases h with
  | compute => exact .register _ _
  | read => exact .input _
  | store => exact .memory _ _
  | cmp => exact .flags _
  | write => exact .output _
  | jump | halt => exact .nothing

namespace Effect

theorem registers_size (h : Effect machine channel after received) :
    after.registers.size = machine.registers.size := by
  cases h <;> simp [setRegister, setMemory]

theorem memory_size (h : Effect machine channel after received) :
    after.memory.size = machine.memory.size := by
  cases h <;> simp [setRegister, setMemory]

theorem pc (h : Effect machine channel after received) : after.pc = machine.pc := by
  cases h <;> rfl

theorem halted (h : Effect machine channel after received) : after.halted = machine.halted := by
  cases h <;> rfl

theorem cycles (h : Effect machine channel after received) : after.cycles = machine.cycles := by
  cases h <;> rfl

theorem flags_consistent (h : Effect machine channel after received)
    (hflags : machine.flags.Consistent) : after.flags.Consistent := by
  cases h with
  | register _ value | input => exact Flags.ofInt_consistent _
  | flags value => exact Flags.ofInt_consistent value
  | memory | output | nothing => exact hflags

theorem cursor_le (h : Effect machine channel after received)
    (hcursor : channel.cursor ≤ channel.input.size) : received.cursor ≤ received.input.size := by
  cases h with
  | input index =>
    unfold Channel.read
    split
    · rename_i c hc
      exact (Array.getElem?_eq_some_iff.mp hc).1
    · exact hcursor
  | register | memory | flags | output | nothing => exact hcursor

theorem input_eq (h : Effect machine channel after received) :
    received.input = channel.input := by
  cases h with
  | input => simp
  | register | memory | flags | output | nothing => rfl

end Effect

end Machine

end RegisterMachine
