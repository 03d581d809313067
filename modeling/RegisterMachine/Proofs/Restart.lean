import RegisterMachine.Proofs.Check

/-!
Loads and resets. Whatever was asked of an engine before, a load or a full reset keeps nothing of it
but the program and the text that was supplied last. So a run that begins there can be repeated.
-/

namespace RegisterMachine

namespace Request

def input? : Request → Option String
  | setInput text => some text
  | _ => none

def lastInput (requests : List Request) : String :=
  (requests.filterMap input?).getLast?.getD ""

end Request

namespace Engine

variable {engine after : Engine} {result : Except Failure Bool} {config : Config}

/-- The engine of a program and an input, with nothing executed. -/
def atStart (config : Config) (program : Program) (input : Array Char) : Engine :=
  ⟨config, program, Machine.new config, { input := input }⟩

theorem StepRule.input_eq (h : engine.StepRule result after) :
    after.channel.input = engine.channel.input := by
  cases h with
  | idle | noProgram | pastEnd | undecodable | unresolved | stray => rfl
  | capped hperforms => exact hperforms.change.input_eq
  | performed hperforms =>
    rw [follow_channel]
    exact hperforms.change.input_eq

@[simp] theorem stepped_input (engine : Engine) (count : Nat) :
    (engine.stepped count).channel.input = engine.channel.input :=
  stepped_induction (P := fun after => after.channel.input = engine.channel.input)
    (fun after h => after.stepRule.input_eq.trans h) rfl count

theorem serve_input (engine : Engine) (request : Request) :
    (engine.serve request).2.channel.input =
      (request.input?.map fun text => text.toList.toArray).getD engine.channel.input := by
  cases request with
  | load name source =>
    simp only [serve, load]
    split <;> rfl
  | setInput | reset => rfl
  | step => exact engine.stepRule.input_eq
  | run => simpa [serve, Request.input?] using engine.stepped_input engine.calls

theorem serveAll_input {requests : List Request} {text : String}
    (h : engine.channel.input = text.toList.toArray) :
    (engine.serveAll requests).channel.input =
      ((requests.filterMap Request.input?).getLast?.getD text).toList.toArray := by
  induction requests generalizing engine text with
  | nil => exact h
  | cons request rest ih =>
    have hserve := engine.serve_input request
    cases hinput : request.input? with
    | none =>
      rw [hinput] at hserve
      rw [List.filterMap_cons_none hinput]
      exact ih (hserve.trans h)
    | some supplied =>
      rw [hinput] at hserve
      rw [List.filterMap_cons_some hinput, List.getLast?_cons, Option.getD_some]
      exact ih hserve

theorem reset_eq (hregisters : engine.machine.registers.size = engine.config.registerCount)
    (hmemory : engine.machine.memory.size = engine.config.memorySize) :
    engine.reset true = atStart engine.config engine.program engine.channel.input := by
  simp only [reset, Machine.reset, atStart, Machine.new, hregisters, hmemory, ite_true,
    Channel.rewind, Channel.clearOutput]

theorem Sound.reset_eq (h : engine.Sound) :
    engine.reset true = atStart engine.config engine.program engine.channel.input :=
  Engine.reset_eq h.registers_size h.memory_size

theorem Sound.load_eq {name source : String} {program : Program} (h : engine.Sound)
    (hassemble : Program.assemble name source = .ok program) :
    engine.load name source =
      (.ok (), atStart engine.config program engine.channel.input) := by
  have hinstall : engine.install program =
      atStart engine.config program engine.channel.input :=
    Engine.reset_eq h.registers_size h.memory_size
  simp only [Engine.load, hassemble, hinstall]

theorem assemble_of_load {name source : String} (h : (engine.load name source).1 = .ok ()) :
    ∃ program, Program.assemble name source = .ok program := by
  unfold load at h
  split at h
  · exact ⟨_, ‹_›⟩
  · cases h

theorem Sound.reset_of_steps (h : engine.Sound) (count : Nat) :
    (engine.stepped count).reset true = engine.reset true := by
  simp [(stepped_sound h count).reset_eq, h.reset_eq]

theorem Sound.run_again (h : engine.Sound) (hstart : engine.reset true = engine) :
    (engine.run.2.reset true).run = engine.run := by
  rw [← stepped_calls, h.reset_of_steps, hstart]

/-- Some source assembles to the program of a reachable engine, the empty one if none was loaded. -/
theorem Reachable.exists_assemble (h : Reachable config engine) :
    ∃ name source, Program.assemble name source = .ok engine.program := by
  refine h.induction (P := fun engine => ∃ name source,
    Program.assemble name source = .ok engine.program) ⟨"", "", rfl⟩ ?_
  intro engine request hprogram
  cases request with
  | load name source =>
    simp only [serve, load]
    split
    · exact ⟨name, source, ‹_›⟩
    · exact hprogram
  | _ =>
    rw [serve_program rfl]
    exact hprogram

/-- A load keeps nothing of a history but the text supplied last, and a full reset is such a load of
the program in place; a reset that is not full keeps the memory besides. So a run that begins with a
load or a full reset, and with any text, is repeated by a full reset and another run. -/
theorem load_and_reset_forget_history {start : Engine} (hstart : new? config = .ok start) :
    (∀ first second name source, Request.lastInput first = Request.lastInput second →
      ((start.serveAll first).load name source).1 = .ok () →
      (start.serveAll second).load name source = (start.serveAll first).load name source) ∧
    ∀ requests engine, start.serveAll requests = engine →
      (∃ name source, Program.assemble name source = .ok engine.program) ∧
      (∀ others name source, Request.lastInput others = Request.lastInput requests →
        Program.assemble name source = .ok engine.program →
        (start.serveAll others).load name source = (.ok (), engine.reset true)) ∧
      engine.reset false = { engine.reset true with
        machine := { (engine.reset true).machine with memory := engine.machine.memory } } ∧
      ∀ ready, (ready = engine.reset true ∨
          ∃ name source, engine.load name source = (.ok (), ready)) →
        (ready.run.2.reset true).run = ready.run ∧
        ∀ text, ((ready.setInput text).run.2.reset true).run = (ready.setInput text).run := by
  have hreachable : ∀ requests, Reachable config (start.serveAll requests) :=
    fun requests => ⟨start, requests, hstart, rfl⟩
  have hinput : ∀ requests, (start.serveAll requests).channel.input =
      (Request.lastInput requests).toList.toArray := by
    intro requests
    apply serveAll_input
    rw [(new?_eq_ok_iff.mp hstart).2]
    rfl
  -- What a load leads to depends on the configuration, the program and the text alone.
  have hload : ∀ requests name source program, Program.assemble name source = .ok program →
      (start.serveAll requests).load name source =
        (.ok (), atStart config program (Request.lastInput requests).toList.toArray) := by
    intro requests name source program hassemble
    rw [(hreachable requests).sound.load_eq hassemble, (hreachable requests).config_eq, hinput]
  have hreset : ∀ requests, (start.serveAll requests).reset true =
      atStart config (start.serveAll requests).program
        (Request.lastInput requests).toList.toArray := by
    intro requests
    rw [(hreachable requests).sound.reset_eq, (hreachable requests).config_eq, hinput]
  constructor
  · intro first second name source hsame hfirst
    obtain ⟨program, hassemble⟩ := assemble_of_load hfirst
    rw [hload first _ _ _ hassemble, hload second _ _ _ hassemble, hsame]
  · rintro requests engine rfl
    refine ⟨(hreachable requests).exists_assemble, ?_, rfl, ?_⟩
    · intro others name source hsame hassemble
      rw [hload others _ _ _ hassemble, hreset, hsame]
    · intro ready hready
      have hsound : ready.Sound ∧ ready.reset true = ready := by
        rcases hready with rfl | ⟨name, source, hready⟩
        · have hsound := (hreachable requests).sound.reset true
          refine ⟨hsound, ?_⟩
          rw [hreset] at hsound ⊢
          exact hsound.reset_eq
        · have hsound := (hreachable requests).sound.load name source
          obtain ⟨program, hassemble⟩ := assemble_of_load (congrArg Prod.fst hready)
          rw [hload requests _ _ _ hassemble] at hready hsound
          obtain rfl := (congrArg Prod.snd hready).symm
          exact ⟨hsound, hsound.reset_eq⟩
      obtain ⟨hsound, hsame⟩ := hsound
      refine ⟨hsound.run_again hsame, ?_⟩
      intro text
      apply (hsound.setInput text).run_again
      -- The reset rewinds the text, and a text just supplied is at its front.
      exact congrArg (·.setInput text) hsame

/-- A run that fails and a text that is replaced leave no trace in what a load leads to, and what is
echoed then is echoed again after a full reset. -/
theorem forgotten_failure : ∃ ready,
    ((new {}).serveAll [.setInput "é", .load "away" "READ r1\nJMP away\n", .run]).load "echo"
        "READ r0\nWRITE r0\nHALT\n" = (.ok (), ready) ∧
    ((new {}).serveAll [.setInput "x", .run, .setInput "é"]).load "echo"
        "READ r0\nWRITE r0\nHALT\n" = (.ok (), ready) ∧
    (ready.run.2.reset true).run = ready.run ∧ ready.run.2.channel.output = #[233] := by
  have hnew : new? {} = .ok (new {}) := rfl
  obtain ⟨hsame, hreset⟩ := load_and_reset_forget_history hnew
  have hready : ((new {}).serveAll [.setInput "x", .run, .setInput "é"]).load "echo"
      "READ r0\nWRITE r0\nHALT\n" = (.ok (), _) := rfl
  obtain ⟨_, _, _, hagain⟩ := hreset [.setInput "x", .run, .setInput "é"] _ rfl
  refine ⟨_, ?_, hready, (hagain _ (.inr ⟨_, _, hready⟩)).1, rfl⟩
  rw [← hready]
  exact hsame [.setInput "x", .run, .setInput "é"] _ _ _ rfl (congrArg Prod.fst hready)

end Engine

end RegisterMachine
