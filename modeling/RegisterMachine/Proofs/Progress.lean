import RegisterMachine.Proofs.Enlargement

/-!
Executions that are known step by step. `Leads` says that a number of steps succeed and where they
lead. An operation that is performed under the cap leads one step on, and what leads to a halted
machine is the run. Programs that use a single register go through states that can be spelled out.
A word that was made from a code point keeps it, and its low half is written.
-/

namespace RegisterMachine

namespace Engine

variable {engine after final : Engine} {count more : Nat}

/-- So many steps in a row succeed, and lead to this engine. -/
structure Leads (engine : Engine) (count : Nat) (after : Engine) : Prop where
  proceeds : engine.Proceeds count
  stepped_eq : engine.stepped count = after

theorem Leads.trans (h : engine.Leads count after) (hmore : after.Leads more final) :
    engine.Leads (count + more) final := by
  obtain ⟨hproceeds, rfl⟩ := h
  obtain ⟨hrest, rfl⟩ := hmore
  exact ⟨hproceeds.add hrest, stepped_add engine count more⟩

theorem Performs.leads {instruction : Instruction} {opcode : Opcode} {operation : Operation}
    {flow : Flow} {machine : Machine} {channel : Channel}
    (h : engine.Performs instruction opcode operation flow machine channel)
    (hcap : engine.machine.cycles < engine.config.maxCycles) :
    engine.Leads 1 ((engine.spent machine channel).follow flow) := by
  have hunder : ¬ engine.config.maxCycles < machine.cycles + 1 := by
    rw [h.change.cycles]
    omega
  have hstep := h.step_eq
  rw [if_neg hunder] at hstep
  refine ⟨proceeds_succ_iff.mpr ⟨⟨h.running, _, by rw [hstep]⟩, proceeds_zero _⟩, ?_⟩
  rw [stepped, hstep, stepped]

theorem Leads.run_eq (h : engine.Leads count after) (hhalted : after.machine.halted = true) :
    engine.run = (.ok ⟨true, count⟩, after) := by
  obtain ⟨hproceeds, rfl⟩ := h
  exact hproceeds.run_eq_ok hhalted (Nat.le_succ_of_le hproceeds.le_maxCycles)

/-- A machine of the default size whose first register holds a word, with nothing else in use. -/
def onRegister (program : Program) (cap place cycles : Nat) (word : Int32) (flags : Flags)
    (channel : Channel) : Engine where
  config := { maxCycles := cap }
  program := program
  machine := ⟨#[word, 0, 0, 0], Array.replicate 128 0, flags, place, false, cycles⟩
  channel := channel

section
variable {program : Program} {cap place cycles : Nat} {word : Int32} {flags : Flags}
  {channel : Channel} {instruction : Instruction}

theorem execute_of_assemble {name source : String}
    (h : Program.assemble name source = .ok program) (cap : Nat) (input : String) :
    (new { maxCycles := cap }).execute name source input =
      (onRegister program cap 0 0 0 {} { input := input.toList.toArray }).run := by
  simp only [execute, load, h]
  rfl

theorem leads_load {value : Int} (hcurrent : program.instructions[place]? = some instruction)
    (hdecode : instruction.decode program.name { maxCycles := cap } =
      .ok (.load, .load 0 (.immediate value)))
    (hcap : cycles < cap) : (onRegister program cap place cycles word flags channel).Leads 1
      (onRegister program cap (place + 1) (cycles + 1) (Int32.ofInt value)
        (Flags.ofInt (Int32.ofInt value).toInt) channel) := by
  have hperforms : (onRegister program cap place cycles word flags channel).Performs instruction
      .load (.load 0 (.immediate value)) .next _ _ := ⟨⟨rfl, hcurrent, hdecode⟩, rfl, rfl⟩
  exact hperforms.leads hcap

theorem leads_write (hcurrent : program.instructions[place]? = some instruction)
    (hdecode : instruction.decode program.name { maxCycles := cap } = .ok (.write, .write 0))
    (hcap : cycles < cap) : (onRegister program cap place cycles word flags channel).Leads 1
      (onRegister program cap (place + 1) (cycles + 1) word flags (channel.write word)) := by
  have hperforms : (onRegister program cap place cycles word flags channel).Performs instruction
      .write (.write 0) .next _ _ := ⟨⟨rfl, hcurrent, hdecode⟩, rfl, rfl⟩
  exact hperforms.leads hcap

theorem leads_halt (hcurrent : program.instructions[place]? = some instruction)
    (hdecode : instruction.decode program.name { maxCycles := cap } = .ok (.halt, .halt))
    (hcap : cycles < cap) : (onRegister program cap place cycles word flags channel).Leads 1
      (onRegister program cap place (cycles + 1) word flags channel).halt := by
  have hperforms : (onRegister program cap place cycles word flags channel).Performs instruction
      .halt .halt .halt _ _ := ⟨⟨rfl, hcurrent, hdecode⟩, rfl, rfl⟩
  exact hperforms.leads hcap

end

end Engine

namespace Text

/-- A character is not a surrogate and not beyond the last plane. -/
theorem toNat_bounds (c : Char) :
    c.toNat < 0xD800 ∨ 0xDFFF < c.toNat ∧ c.toNat < 0x110000 :=
  c.valid

theorem toNat_ofNat {n : Nat} (h : n < 0xD800 ∨ 0xDFFF < n ∧ n < 0x110000) :
    (Char.ofNat n).toNat = n := by
  rw [Char.ofNat, dif_pos h]
  rfl

@[simp] theorem toInt_word (c : Char) : (Int32.ofNat c.toNat).toInt = c.toNat := by
  have hbounds := toNat_bounds c
  apply Int32.toInt_ofNat_of_lt
  omega

end Text

namespace Channel

def lowHalf (c : Char) : UInt16 :=
  (Int32.ofNat c.toNat).toUInt32.toUInt16

@[simp] theorem toNat_lowHalf (c : Char) : (lowHalf c).toNat = c.toNat % 65536 := by
  simp only [lowHalf, Int32.toUInt32_ofNat', UInt32.toUInt16_ofNat', UInt16.toNat_ofNat',
    Nat.reducePow]

theorem toNat_codeChar (code : UInt16) : (codeChar code).toNat =
    if 0xD800 ≤ code.toNat ∧ code.toNat ≤ 0xDFFF then 0xFFFD else code.toNat := by
  have hlt := code.toNat_lt
  unfold codeChar
  by_cases hsurrogate : 0xD800 ≤ code.toNat ∧ code.toNat ≤ 0xDFFF
  · rw [if_pos hsurrogate, if_pos (by simpa using hsurrogate)]
    rfl
  · rw [if_neg hsurrogate, if_neg (by simpa using hsurrogate)]
    apply Text.toNat_ofNat
    omega

theorem toList_output_write (channel : Channel) (c : Char) :
    (channel.write (Int32.ofNat c.toNat)).output.toList =
      channel.output.toList ++ [lowHalf c] :=
  Array.toList_push

end Channel

end RegisterMachine
