import Mathlib.Data.List.TakeWhile
import RegisterMachine.Program.Sample
import RegisterMachine.Proofs.Progress

/-!
The echo sample. It copies the characters in front of the first zero, in five steps each, and ends
with four more.
-/

namespace RegisterMachine

namespace Channel

def unread (channel : Channel) : List Char :=
  channel.input.toList.drop channel.cursor

theorem getElem?_cursor (channel : Channel) :
    channel.input[channel.cursor]? = channel.unread.head? := by
  rw [unread, List.head?_drop, Array.getElem?_toList]

theorem unread_advance (channel : Channel) :
    { channel with cursor := channel.cursor + 1 }.unread = channel.unread.tail := by
  simp only [unread, List.tail_drop]

@[simp] theorem unread_write (channel : Channel) (value : Int32) :
    (channel.write value).unread = channel.unread := rfl

end Channel

namespace Engine

def echoProgram : Program where
  name := Program.anonymous
  instructions := #[
    ⟨"READ", ["r0"], 3, "    READ r0"⟩,
    ⟨"CMP", ["r0", "0"], 4, "    CMP r0, 0"⟩,
    ⟨"JZ", ["done"], 5, "    JZ done"⟩,
    ⟨"WRITE", ["r0"], 6, "    WRITE r0"⟩,
    ⟨"JMP", ["loop"], 7, "    JMP loop"⟩,
    ⟨"HALT", [], 9, "    HALT"⟩]
  labels := [⟨"loop", 0, 2⟩, ⟨"done", 5, 8⟩]

set_option maxRecDepth 4096 in
theorem assemble_echoSource : Program.assemble Program.anonymous echoSource = .ok echoProgram := by
  rfl

abbrev echoAt := onRegister echoProgram

section
variable {cap cycles : Nat} {word : Int32} {flags : Flags} {channel : Channel}

theorem echo_read (hcap : cycles < cap) : (echoAt cap 0 cycles word flags channel).Leads 1
    (echoAt cap 1 (cycles + 1) channel.read.1 (Flags.ofInt channel.read.1.toInt)
      channel.read.2) := by
  have hperforms : (echoAt cap 0 cycles word flags channel).Performs _ .read (.read 0) .next _ _ :=
    ⟨⟨rfl, rfl, rfl⟩, rfl, rfl⟩
  exact hperforms.leads hcap

theorem echo_compare (hcap : cycles < cap) : (echoAt cap 1 cycles word flags channel).Leads 1
    (echoAt cap 2 (cycles + 1) word (Flags.ofInt (saturate (word.toInt - 0))) channel) := by
  have hperforms : (echoAt cap 1 cycles word flags channel).Performs _ .cmp
      (.cmp 0 (.immediate 0)) .next _ _ := ⟨⟨rfl, rfl, rfl⟩, rfl, rfl⟩
  exact hperforms.leads hcap

theorem echo_stay (hzero : flags.zero = false) (hcap : cycles < cap) :
    (echoAt cap 2 cycles word flags channel).Leads 1
      (echoAt cap 3 (cycles + 1) word flags channel) := by
  obtain ⟨zero, negative⟩ := flags
  obtain rfl : zero = false := hzero
  have hperforms : (echoAt cap 2 cycles word ⟨false, negative⟩ channel).Performs _ .jz
      (.jump .zero "done") .next _ _ := ⟨⟨rfl, rfl, rfl⟩, rfl, rfl⟩
  exact hperforms.leads hcap

theorem echo_leave (hzero : flags.zero = true) (hcap : cycles < cap) :
    (echoAt cap 2 cycles word flags channel).Leads 1
      (echoAt cap 5 (cycles + 1) word flags channel) := by
  obtain ⟨zero, negative⟩ := flags
  obtain rfl : zero = true := hzero
  have hperforms : (echoAt cap 2 cycles word ⟨true, negative⟩ channel).Performs _ .jz
      (.jump .zero "done") (.jump 5) _ _ := ⟨⟨rfl, rfl, rfl⟩, rfl, rfl⟩
  exact hperforms.leads hcap

theorem echo_repeat (hcap : cycles < cap) : (echoAt cap 4 cycles word flags channel).Leads 1
    (echoAt cap 0 (cycles + 1) word flags channel) := by
  have hperforms : (echoAt cap 4 cycles word flags channel).Performs _ .jmp
      (.jump .always "loop") (.jump 0) _ _ := ⟨⟨rfl, rfl, rfl⟩, rfl, rfl⟩
  exact hperforms.leads hcap

theorem zero_compare {value : Int} (hlow : 0 ≤ value) (hhigh : value < 0x110000) :
    (Flags.ofInt (saturate (value - 0))).zero = (value == 0) := by
  have hsame : saturate (value - 0) = value := by
    unfold saturate
    rw [if_neg (by omega), if_pos (by omega), Int.sub_zero]
  rw [hsame]
  rfl

theorem echo_fetch (hcap : cycles + 2 ≤ cap) : (echoAt cap 0 cycles word flags channel).Leads 2
    (echoAt cap 2 (cycles + 2) channel.read.1
      (Flags.ofInt (saturate (channel.read.1.toInt - 0))) channel.read.2) :=
  (echo_read (by omega)).trans (echo_compare (by omega))

/-- A character other than the zero is copied in one round. -/
theorem echo_round {c : Char} (hnext : channel.input[channel.cursor]? = some c)
    (hc : c.toNat ≠ 0) (hcap : cycles + 5 ≤ cap) : ∃ later,
      (echoAt cap 0 cycles word flags channel).Leads 5
        (echoAt cap 0 (cycles + 5) (Int32.ofNat c.toNat) later
          ({ channel with cursor := channel.cursor + 1 }.write (Int32.ofNat c.toNat))) := by
  have hfetch : (echoAt cap 0 cycles word flags channel).Leads 2 _ := echo_fetch (by omega)
  rw [Channel.read_of_some hnext] at hfetch
  have hbounds := Text.toNat_bounds c
  have hzero : (Flags.ofInt (saturate ((Int32.ofNat c.toNat).toInt - 0))).zero = false := by
    rw [Text.toInt_word, zero_compare (by omega) (by omega)]
    simpa using hc
  have hstay := hfetch.trans (echo_stay hzero (by omega))
  exact ⟨_, (hstay.trans (leads_write rfl rfl (by omega))).trans (echo_repeat (by omega))⟩

/-- A zero, read or at the end of the input, ends the loop. -/
theorem echo_last (hread : channel.read.1 = 0) (hcap : cycles + 4 ≤ cap) : ∃ final,
    (echoAt cap 0 cycles word flags channel).Leads 4 final ∧ final.machine.halted = true ∧
      final.channel.output = channel.output := by
  have hfetch : (echoAt cap 0 cycles word flags channel).Leads 2 _ := echo_fetch (by omega)
  rw [hread] at hfetch
  have hleave := hfetch.trans (echo_leave rfl (by omega))
  exact ⟨_, hleave.trans (leads_halt rfl rfl (by omega)), rfl, channel.output_read⟩

/-- The characters that are copied from a text. -/
def copied (text : List Char) : List Char :=
  text.takeWhile (· != '\x00')

theorem echo_leads {rest : List Char} (hunread : channel.unread = rest)
    (hcap : cycles + (5 * (copied rest).length + 4) ≤ cap) : ∃ final,
      (echoAt cap 0 cycles word flags channel).Leads (5 * (copied rest).length + 4) final ∧
      final.machine.halted = true ∧
      final.channel.output.toList = channel.output.toList ++ (copied rest).map Channel.lowHalf := by
  -- The invariant of the loop: with so many characters left to copy, so many steps are left. What
  -- the register and the flags hold when a round begins does not matter.
  induction rest generalizing cycles word flags channel with
  | nil =>
    have hread : channel.read.1 = 0 := by
      rw [Channel.read_of_none (by rw [channel.getElem?_cursor, hunread]; rfl)]
      rfl
    obtain ⟨final, hleads, hhalted, houtput⟩ := echo_last hread hcap
    exact ⟨final, hleads, hhalted, by simp [houtput, copied]⟩
  | cons c rest ih =>
    have hnext : channel.input[channel.cursor]? = some c := by
      rw [channel.getElem?_cursor, hunread]
      rfl
    by_cases hc : c = '\x00'
    · have hread : channel.read.1 = 0 := by
        rw [Channel.read_of_some hnext, hc]
        rfl
      have hcopied : copied (c :: rest) = [] := by
        simp [copied, hc]
      rw [hcopied] at hcap ⊢
      obtain ⟨final, hleads, hhalted, houtput⟩ := echo_last hread hcap
      exact ⟨final, hleads, hhalted, by simp [houtput]⟩
    · have hcopied : copied (c :: rest) = c :: copied rest := by
        simp [copied, hc]
      have hcode : c.toNat ≠ 0 := by
        intro hcode
        apply hc
        rw [← Char.ofNat_toNat c, hcode]
      rw [hcopied, List.length_cons] at hcap ⊢
      have hround : cycles + 5 ≤ cap := by omega
      obtain ⟨later, hcopy⟩ := echo_round hnext hcode hround
      have hrest : ({ channel with cursor := channel.cursor + 1 }.write
          (Int32.ofNat c.toNat)).unread = rest := by
        rw [Channel.unread_write, channel.unread_advance, hunread]
        rfl
      have hroom : cycles + 5 + (5 * (copied rest).length + 4) ≤ cap := by omega
      obtain ⟨final, hleads, hhalted, houtput⟩ := ih hrest hroom
      have hcount : 5 * ((copied rest).length + 1) + 4 = 5 + (5 * (copied rest).length + 4) := by
        omega
      refine ⟨final, hcount ▸ hcopy.trans hleads, hhalted, ?_⟩
      rw [houtput, Channel.toList_output_write, List.map_cons, List.append_assoc]
      rfl

end

theorem execute_echoSource_eq_ok {cap : Nat} {text : String}
    (hcap : 5 * (copied text.toList).length + 4 ≤ cap) : ∃ final,
      (new { maxCycles := cap }).execute Program.anonymous echoSource text =
        (.ok ⟨true, 5 * (copied text.toList).length + 4⟩, final) ∧
      final.channel.output.toList = (copied text.toList).map Channel.lowHalf := by
  have hunread : ({ input := text.toList.toArray } : Channel).unread = text.toList := rfl
  have hroom : 0 + (5 * (copied text.toList).length + 4) ≤ cap := by omega
  obtain ⟨final, hleads, hhalted, houtput⟩ := echo_leads hunread hroom
  rw [execute_of_assemble assemble_echoSource]
  exact ⟨final, hleads.run_eq hhalted, houtput⟩

theorem runSource_eq (source input : String) : runSource source input =
    match (new {}).execute Program.anonymous source input with
    | (.error failure, _) => .error failure
    | (.ok _, final) => .ok final.outputText := by
  unfold runSource execute
  obtain ⟨outcome, engine⟩ := (new {}).load Program.anonymous source
  cases outcome with
  | error failure => rfl
  | ok => rfl

theorem copied_eq_self {text : List Char} (h : ∀ c ∈ text, c ≠ '\x00') : copied text = text := by
  apply List.takeWhile_eq_self_iff.mpr
  intro c hc
  exact bne_iff_ne.mpr (h c hc)

/-- The code of the character that shows a code point: its low half, or a replacement for what would
be a surrogate. -/
def shownCode (n : Nat) : Nat :=
  if 0xD800 ≤ n % 65536 ∧ n % 65536 ≤ 0xDFFF then 0xFFFD else n % 65536

theorem toNat_codeChar_lowHalf (c : Char) :
    (Channel.codeChar (Channel.lowHalf c)).toNat = shownCode c.toNat := by
  rw [Channel.toNat_codeChar, Channel.toNat_lowHalf, shownCode]

theorem shownCode_toNat {c : Char} (h : c.toNat < 65536) : shownCode c.toNat = c.toNat := by
  have hbounds := Text.toNat_bounds c
  unfold shownCode
  rw [Nat.mod_eq_of_lt h, if_neg (by omega)]

/-- The echo sample copies what stands in front of the first zero, if the cap allows five steps for
each character and four more. -/
theorem runSource_echoSource (text : String) :
    (5 * (copied text.toList).length + 4 ≤ 4096 → ∃ output final,
      runSource echoSource text = .ok output ∧
      output.length = (copied text.toList).length ∧
      output.toList.map Char.toNat = (copied text.toList).map (fun c => shownCode c.toNat) ∧
      ((∀ c ∈ text.toList, c ≠ '\x00' ∧ c.toNat < 65536) → output = text) ∧
      (new {}).execute Program.anonymous echoSource text =
        (.ok ⟨true, 5 * (copied text.toList).length + 4⟩, final) ∧
      final.outputText = output) ∧
    (4096 < 5 * (copied text.toList).length + 4 → ∃ location,
      runSource echoSource text = .error (.cycleLimit 4096 location)) := by
  constructor
  · intro hcap
    obtain ⟨final, hexecute, houtput⟩ := execute_echoSource_eq_ok hcap
    have hcodes : final.outputText.toList.map Char.toNat =
        (copied text.toList).map fun c => shownCode c.toNat := by
      simp only [outputText, Channel.outputText, houtput, String.toList_ofList, List.map_map]
      apply List.map_congr_left
      intro c _
      exact toNat_codeChar_lowHalf c
    refine ⟨_, final, by rw [runSource_eq, hexecute], ?_, hcodes, ?_, hexecute, rfl⟩
    · rw [← String.length_toList]
      simpa using congrArg List.length hcodes
    · intro hplain
      apply String.toList_inj.mp
      apply (List.map_inj_right fun _ _ => Char.toNat_inj.mp).mp
      rw [hcodes, copied_eq_self fun c hc => (hplain c hc).1]
      apply List.map_congr_left
      intro c hc
      exact shownCode_toNat (hplain c hc).2
  · intro hcap
    obtain ⟨after, hexecute, _⟩ := execute_echoSource_eq_ok (Nat.le_refl _)
    have hcovers : Config.Covers {} { maxCycles := 5 * (copied text.toList).length + 4 } :=
      ⟨Nat.le_refl _, Nat.le_refl _⟩
    obtain ⟨location, final, hlimit, _⟩ := execute_of_covers_of_lt hcovers hexecute hcap
    exact ⟨location, by rw [runSource_eq, hlimit]⟩

/-- What is written for U+1D800 is a surrogate, and 819 characters are one too many. -/
theorem runSource_echoSource_limits :
    (∃ output final, runSource echoSource "𝠀é\x00z" = .ok output ∧
      output.toList.map Char.toNat = [0xFFFD, 0xE9] ∧
      (new {}).execute Program.anonymous echoSource "𝠀é\x00z" = (.ok ⟨true, 14⟩, final)) ∧
    ∃ location, runSource echoSource (String.ofList (List.replicate 819 'x')) =
      .error (.cycleLimit 4096 location) := by
  constructor
  · obtain ⟨output, final, hrun, _, hcodes, _, hexecute, _⟩ :=
      (runSource_echoSource "𝠀é\x00z").1 (by decide)
    exact ⟨output, final, hrun, hcodes, hexecute⟩
  · apply (runSource_echoSource _).2
    have hcopied : copied (List.replicate 819 'x') = List.replicate 819 'x' := by
      apply copied_eq_self
      intro c hc
      rw [List.eq_of_mem_replicate hc]
      decide
    rw [String.toList_ofList, hcopied, List.length_replicate]
    decide

end Engine

end RegisterMachine
