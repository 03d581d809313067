import RegisterMachine.Proofs.Iteration
import RegisterMachine.Proofs.Step

/-!
How the input influences an execution. A text stands for the sequence of its codes with zeros after
them, and each READ that is executed takes the next of these. Two texts whose sequences begin alike
cannot be told apart before a READ goes beyond that beginning.
-/

namespace RegisterMachine

/-- The code at a place of a text, which zeros follow. -/
def Text.codeAt (text : String) (place : Nat) : Nat :=
  (text.toList[place]?.map Char.toNat).getD 0

namespace Channel

variable {channel other : Channel} {budget : Nat}

/-- The code that is read after so many others. -/
def ahead (channel : Channel) (place : Nat) : Nat :=
  (channel.input[channel.cursor + place]?.map Char.toNat).getD 0

theorem read_eq (channel : Channel) : channel.read.1 = Int32.ofNat (channel.ahead 0) := by
  rw [ahead, Nat.add_zero]
  cases hnext : channel.input[channel.cursor]? with
  | none =>
    rw [read_of_none hnext]
    rfl
  | some c =>
    rw [read_of_some hnext]
    rfl

/-- Reading takes the first of the codes ahead, also where they are the zeros behind the text. -/
theorem ahead_read (channel : Channel) (place : Nat) :
    channel.read.2.ahead place = channel.ahead (place + 1) := by
  cases hnext : channel.input[channel.cursor]? with
  | none =>
    have hend : ∀ more, channel.input[channel.cursor + more]? = none := by
      intro more
      have hsize := Array.getElem?_eq_none_iff.mp hnext
      exact Array.getElem?_eq_none (by omega)
    rw [read_of_none hnext, ahead, ahead, hend, hend]
  | some c =>
    rw [read_of_some hnext, ahead, ahead, Nat.add_assoc, Nat.add_comm 1]

/-- The same was written, and so many codes to come are the same. -/
structure Alike (budget : Nat) (channel other : Channel) : Prop where
  output : other.output = channel.output
  ahead : ∀ place < budget, other.ahead place = channel.ahead place

theorem Alike.mono {less : Nat} (h : Alike budget channel other) (hle : less ≤ budget) :
    Alike less channel other where
  output := h.output
  ahead place hplace := h.ahead place (Nat.lt_of_lt_of_le hplace hle)

theorem Alike.read (h : Alike (budget + 1) channel other) :
    other.read.1 = channel.read.1 ∧ Alike budget channel.read.2 other.read.2 := by
  constructor
  · rw [read_eq, read_eq, h.ahead 0 (Nat.succ_pos budget)]
  · refine ⟨?_, ?_⟩
    · simp [h.output]
    · intro place hplace
      rw [ahead_read, ahead_read, h.ahead _ (Nat.succ_lt_succ hplace)]

theorem Alike.write (h : Alike budget channel other) (value : Int32) :
    Alike budget (channel.write value) (other.write value) where
  output := congrArg (·.push value.toUInt32.toUInt16) h.output
  ahead := h.ahead

theorem alike_setInput {first second : String}
    (h : ∀ place < budget, Text.codeAt first place = Text.codeAt second place)
    (channel : Channel) : Alike budget (channel.setInput first) (channel.setInput second) where
  output := rfl
  ahead place hplace := by
    simp only [Channel.ahead, setInput, Nat.zero_add, List.getElem?_toArray]
    exact (h place hplace).symm

end Channel

def Operation.reads : Operation → Nat
  | read _ => 1
  | _ => 0

theorem Machine.effect?_alike {machine after : Machine} {channel other received : Channel}
    {operation : Operation} {budget : Nat} (h : Channel.Alike budget channel other)
    (hreads : operation.reads ≤ budget)
    (heffect : machine.effect? channel operation = some (after, received)) :
    ∃ taken, machine.effect? other operation = some (after, taken) ∧
      Channel.Alike (budget - operation.reads) received taken := by
  cases operation with
  | read dest =>
    obtain ⟨rest, rfl⟩ := Nat.exists_eq_add_of_le' hreads
    obtain ⟨hcode, hrest⟩ := h.read
    simp only [effect?, Option.bind_eq_bind, Option.bind_eq_some_iff, Option.pure_def,
      Option.some.injEq, Prod.mk.injEq] at heffect ⊢
    obtain ⟨_, hwrite, rfl, rfl⟩ := heffect
    exact ⟨_, ⟨_, hcode ▸ hwrite, rfl, rfl⟩, hrest⟩
  | write src =>
    simp only [effect?, Option.bind_eq_bind, Option.bind_eq_some_iff, Option.pure_def,
      Option.some.injEq, Prod.mk.injEq] at heffect ⊢
    obtain ⟨value, hvalue, rfl, rfl⟩ := heffect
    exact ⟨_, ⟨value, hvalue, rfl, rfl⟩, h.write value⟩
  | load | store | cmp =>
    simp only [effect?, Option.bind_eq_bind, Option.bind_eq_some_iff, Option.pure_def,
      Option.some.injEq, Prod.mk.injEq] at heffect ⊢
    obtain ⟨first, hfirst, second, hsecond, rfl, rfl⟩ := heffect
    exact ⟨other, ⟨first, hfirst, second, hsecond, rfl, rfl⟩, h⟩
  | add | sub | inc | dec =>
    simp only [effect?, Option.map_eq_some_iff, Prod.mk.injEq] at heffect ⊢
    obtain ⟨_, hcombine, rfl, rfl⟩ := heffect
    exact ⟨other, ⟨_, hcombine, rfl, rfl⟩, h⟩
  | jump | halt =>
    simp only [effect?, Option.some.injEq, Prod.mk.injEq] at heffect ⊢
    obtain ⟨rfl, rfl⟩ := heffect
    exact ⟨other, ⟨rfl, rfl⟩, h⟩

theorem Machine.effect?_eq_none {machine : Machine} {channel : Channel} {operation : Operation}
    (h : machine.effect? channel operation = none) (other : Channel) :
    machine.effect? other operation = none := by
  rw [← Option.not_isSome_iff_eq_none, isSome_effect?_iff] at h ⊢
  exact h

namespace Engine

variable {engine : Engine} {other : Channel} {budget count : Nat}

def on (engine : Engine) (channel : Channel) : Engine :=
  { engine with channel := channel }

def reads (engine : Engine) : Nat :=
  if engine.machine.halted then 0
  else
    match engine.current? with
    | none => 0
    | some instruction =>
      match instruction.decode engine.program.name engine.config with
      | .error _ => 0
      | .ok (_, operation) => operation.reads

/-- How many times a READ is executed in so many calls for a step. -/
def readsIn (engine : Engine) : Nat → Nat
  | 0 => 0
  | count + 1 => engine.reads + engine.step.2.readsIn count

section
variable {instruction : Instruction} {opcode : Opcode} {operation : Operation}

theorem Decodes.on (h : engine.Decodes instruction opcode operation) (channel : Channel) :
    (engine.on channel).Decodes instruction opcode operation :=
  ⟨h.running, h.current, h.decoded⟩

theorem Decodes.reads_eq (h : engine.Decodes instruction opcode operation) :
    engine.reads = operation.reads := by
  simp only [reads, h.running, h.current, h.decoded, Bool.false_eq_true, ite_false]

theorem Performs.on_alike {flow : Flow} {machine : Machine} {channel : Channel}
    (hperforms : engine.Performs instruction opcode operation flow machine channel)
    (h : Channel.Alike budget engine.channel other) (hreads : engine.reads ≤ budget) :
    ∃ taken, (engine.on other).Performs instruction opcode operation flow machine taken ∧
      Channel.Alike (budget - engine.reads) channel taken := by
  rw [hperforms.reads_eq] at hreads ⊢
  obtain ⟨taken, heffect, hrest⟩ := Machine.effect?_alike h hreads hperforms.effect
  exact ⟨taken, ⟨hperforms.toDecodes.on other, hperforms.flows, heffect⟩, hrest⟩

end

/-- A step that reads no more than what is alike does the same on the other channel. -/
theorem StepRule.on_alike {result : Except Failure Bool} {after : Engine}
    (hrule : engine.StepRule result after) (h : Channel.Alike budget engine.channel other)
    (hreads : engine.reads ≤ budget) :
    ∃ taken, (engine.on other).StepRule result (after.on taken) ∧
      Channel.Alike (budget - engine.reads) after.channel taken := by
  have hsame : Channel.Alike (budget - engine.reads) engine.channel other :=
    h.mono (Nat.sub_le _ _)
  cases hrule with
  | idle hhalted => exact ⟨other, .idle hhalted, hsame⟩
  | noProgram hrunning hprogram => exact ⟨other, .noProgram hrunning hprogram, hsame⟩
  | pastEnd hrunning hprogram hcurrent =>
    exact ⟨other, .pastEnd hrunning hprogram hcurrent, hsame⟩
  | undecodable hrunning hcurrent hdecode =>
    exact ⟨other, .undecodable hrunning hcurrent hdecode, hsame⟩
  | unresolved hdecodes htaken hlabel =>
    exact ⟨other, .unresolved (hdecodes.on other) htaken hlabel, hsame⟩
  | stray hdecodes heffect =>
    exact ⟨other, .stray (hdecodes.on other) (Machine.effect?_eq_none heffect other), hsame⟩
  | capped hperforms hcap =>
    obtain ⟨taken, hother, hrest⟩ := hperforms.on_alike h hreads
    exact ⟨taken, .capped hother hcap, hrest⟩
  | @performed _ _ _ flow _ _ hperforms hcap =>
    obtain ⟨taken, hother, hrest⟩ := hperforms.on_alike h hreads
    refine ⟨taken, ?_, by rwa [follow_channel]⟩
    have hperformed := StepRule.performed hother hcap
    cases flow <;> exact hperformed

theorem step_on_alike (h : Channel.Alike budget engine.channel other)
    (hreads : engine.reads ≤ budget) :
    ∃ taken, (engine.on other).step = (engine.step.1, engine.step.2.on taken) ∧
      Channel.Alike (budget - engine.reads) engine.step.2.channel taken := by
  obtain ⟨taken, hrule, hrest⟩ := engine.stepRule.on_alike h hreads
  exact ⟨taken, hrule.step_eq, hrest⟩

/-- So many calls for a step have the same results and lead to the same machine and output. -/
structure Agree (count : Nat) (first second : Engine) : Prop where
  results : ∀ k < count, (second.stepped k).step.1 = (first.stepped k).step.1
  machine : (second.stepped count).machine = (first.stepped count).machine
  output : (second.stepped count).channel.output = (first.stepped count).channel.output

theorem agree_on_alike (h : Channel.Alike budget engine.channel other)
    (hreads : engine.readsIn count ≤ budget) : Agree count engine (engine.on other) := by
  -- Each step takes what it reads from the budget, and what is left is alike after it.
  induction count generalizing engine other budget with
  | zero => exact ⟨nofun, rfl, h.output⟩
  | succ count ih =>
    simp only [readsIn] at hreads
    obtain ⟨taken, hstep, hrest⟩ := step_on_alike h (by omega)
    have hagree := ih hrest (by omega)
    rw [show engine.step.2.on taken = (engine.on other).step.2 by rw [hstep]] at hagree
    refine ⟨?_, hagree.machine, hagree.output⟩
    intro k hk
    cases k with
    | zero =>
      rw [stepped, stepped, hstep]
    | succ k => exact hagree.results k (Nat.lt_of_succ_lt_succ hk)

theorem load_setInput (engine : Engine) (name source text : String) :
    (engine.setInput text).load name source =
      ((engine.load name source).1, (engine.load name source).2.setInput text) := by
  unfold load
  cases Program.assemble name source with
  | ok program => rfl
  | error duplicate => rfl

theorem codeAt_append_zeros (text : String) (zeros place : Nat) :
    Text.codeAt (text ++ String.ofList (List.replicate zeros '\x00')) place =
      Text.codeAt text place := by
  simp only [Text.codeAt, String.toList_append, String.toList_ofList, List.getElem?_append]
  split
  · rfl
  · rename_i hbehind
    rw [List.getElem?_eq_none (Nat.le_of_not_lt hbehind), List.getElem?_replicate]
    split <;> rfl

/-- Texts whose codes, with zeros after them, begin alike have the same results and lead to the same
machine and output, as long as no READ goes beyond that beginning. So zeros behind a text make no
difference. It does not matter whether a text is supplied before a load or after it. -/
theorem input_matters_as_far_as_read (engine : Engine) :
    (∀ first second budget count,
      (∀ place < budget, Text.codeAt first place = Text.codeAt second place) →
      (engine.setInput first).readsIn count ≤ budget →
      Agree count (engine.setInput first) (engine.setInput second)) ∧
    (∀ text zeros count, Agree count (engine.setInput text)
      (engine.setInput (text ++ String.ofList (List.replicate zeros '\x00')))) ∧
    ∀ name source text, (engine.setInput text).load name source =
      ((engine.load name source).1, (engine.load name source).2.setInput text) := by
  refine ⟨?_, ?_, engine.load_setInput⟩
  · intro first second budget count hcodes hreads
    have halike : Channel.Alike budget (engine.setInput first).channel _ :=
      Channel.alike_setInput hcodes engine.channel
    exact agree_on_alike halike hreads
  · intro text zeros count
    have hcodes : ∀ place < (engine.setInput text).readsIn count, Text.codeAt text place =
        Text.codeAt (text ++ String.ofList (List.replicate zeros '\x00')) place :=
      fun place _ => (codeAt_append_zeros text zeros place).symm
    have halike : Channel.Alike _ (engine.setInput text).channel _ :=
      Channel.alike_setInput hcodes engine.channel
    exact agree_on_alike halike (Nat.le_refl _)

/-- Three steps with one READ in them cannot tell `"éa"` from `"éb"`; the second READ can. -/
theorem one_read_matters :
    Agree 3 (((new {}).load "echo" "READ r0\nWRITE r0\nINC r0\nREAD r0\n").2.setInput "éa")
      (((new {}).load "echo" "READ r0\nWRITE r0\nINC r0\nREAD r0\n").2.setInput "éb") ∧
    ¬ Agree 4 (((new {}).load "echo" "READ r0\nWRITE r0\nINC r0\nREAD r0\n").2.setInput "éa")
      (((new {}).load "echo" "READ r0\nWRITE r0\nINC r0\nREAD r0\n").2.setInput "éb") := by
  constructor
  · apply (input_matters_as_far_as_read _).1 "éa" "éb" 1 3
    · decide
    · exact Nat.le_refl 1
  · intro hagree
    have hregisters := congrArg Machine.registers hagree.machine
    revert hregisters
    decide

end Engine

end RegisterMachine
