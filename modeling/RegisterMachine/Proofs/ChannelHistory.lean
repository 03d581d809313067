import Mathlib.Data.List.DropRight
import RegisterMachine.Proofs.Influence
import RegisterMachine.Proofs.Progress

/-!
Histories of a channel. What a read answers and what the output is can be told from the history
alone: input is looked up by counting the reads since it was last put at its front, and output
consists of what was written since it was last cleared. The two do not touch each other.
-/

namespace RegisterMachine

theorem Text.toInt_codeAt (text : String) (place : Nat) :
    (Int32.ofNat (codeAt text place)).toInt = codeAt text place := by
  unfold codeAt
  cases text.toList[place]? with
  | none => rfl
  | some c => exact toInt_word c

namespace Channel

inductive Action where
  | setInput (text : String)
  | read
  | write (value : Int32)
  | rewind
  | clearOutput
  deriving DecidableEq

namespace Action

/-- Whether reading starts at the front again. -/
def restarts : Action → Bool
  | setInput _ | rewind => true
  | read | write _ | clearOutput => false

def text? : Action → Option String
  | setInput text => some text
  | read | write _ | rewind | clearOutput => none

def value? : Action → Option Int32
  | write value => some value
  | setInput _ | read | rewind | clearOutput => none

theorem text?_eq_none {action : Action} (h : action.restarts = false) : action.text? = none := by
  cases action with
  | setInput text => contradiction
  | read | write value | rewind | clearOutput => rfl

end Action

def act (channel : Channel) : Action → Channel
  | .setInput text => channel.setInput text
  | .read => channel.read.2
  | .write value => channel.write value
  | .rewind => channel.rewind
  | .clearOutput => channel.clearOutput

def actAll (channel : Channel) (history : List Action) : Channel :=
  history.foldl act channel

/-- What the reads of a history answer, in their order. -/
def answers (channel : Channel) : List Action → List Int32
  | [] => []
  | action :: history =>
    let rest := (channel.act action).answers history
    if action = .read then channel.read.1 :: rest else rest

def lastText (history : List Action) : String :=
  (history.filterMap Action.text?).getLastD ""

/-- How many reads there were since the input was last put at its front. -/
def readsSince (history : List Action) : Nat :=
  (history.rtakeWhile fun action => !action.restarts).count .read

/-- What was written since the output was last cleared. -/
def writtenSince (history : List Action) : List Int32 :=
  (history.rtakeWhile (· ≠ .clearOutput)).filterMap Action.value?

section
variable (channel : Channel) (action : Action)

theorem input_act : (channel.act action).input =
    (action.text?.map fun text => text.toList.toArray).getD channel.input := by
  cases action with
  | read => simp [act, Action.text?]
  | setInput text | write value | rewind | clearOutput => rfl

theorem cursor_act : (channel.act action).cursor =
    if action.restarts then 0
    else if action = .read ∧ channel.cursor < channel.input.size then channel.cursor + 1
    else channel.cursor := by
  cases action with
  | read => simpa [act, Action.restarts] using cursor_read channel
  | setInput text | write value | rewind | clearOutput => rfl

theorem output_act : (channel.act action).output.toList =
    if action = .clearOutput then []
    else channel.output.toList ++
      action.value?.toList.map fun value => value.toUInt32.toUInt16 := by
  cases action with
  | read => simp [act, Action.value?]
  | write value => exact Array.toList_push
  | setInput text | rewind => exact (List.append_nil _).symm
  | clearOutput => rfl

end

section
variable (history : List Action) (action : Action)

@[simp] theorem actAll_concat (channel : Channel) :
    channel.actAll (history ++ [action]) = (channel.actAll history).act action :=
  List.foldl_concat ..

theorem lastText_concat :
    lastText (history ++ [action]) = action.text?.getD (lastText history) := by
  unfold lastText
  rw [List.filterMap_append]
  cases htext : action.text? with
  | none => simp [htext]
  | some text => simp [htext]

theorem readsSince_concat : readsSince (history ++ [action]) =
    if action.restarts then 0
    else if action = .read then readsSince history + 1
    else readsSince history := by
  unfold readsSince
  rw [List.rtakeWhile_concat]
  cases action.restarts with
  | true => rfl
  | false =>
    by_cases hread : action = .read <;> simp [hread]

theorem writtenSince_concat : writtenSince (history ++ [action]) =
    if action = .clearOutput then [] else writtenSince history ++ action.value?.toList := by
  unfold writtenSince
  rw [List.rtakeWhile_concat]
  by_cases hclear : action = .clearOutput
  · rw [if_pos hclear, if_neg (by simpa using hclear)]
    rfl
  · rw [if_neg hclear, if_pos (by simpa using hclear), List.filterMap_append]
    cases hvalue : action.value? with
    | none => simp [hvalue]
    | some value => simp [hvalue]

end

/-- The channel is as the history tells. A read past the end leaves the cursor where it is, so the
cursor stops at the text's length while the reads go on being counted. -/
structure Recalls (history : List Action) (channel : Channel) : Prop where
  input : channel.input = (lastText history).toList.toArray
  cursor : channel.cursor = min (readsSince history) channel.input.size
  output : channel.output.toList =
    (writtenSince history).map fun value => value.toUInt32.toUInt16

namespace Recalls
variable {history : List Action} {channel : Channel}

theorem act (h : Recalls history channel) (action : Action) :
    Recalls (history ++ [action]) (channel.act action) := by
  refine ⟨?_, ?_, ?_⟩
  · rw [input_act, lastText_concat, h.input]
    cases action.text? <;> rfl
  · rw [cursor_act, readsSince_concat]
    cases hrestarts : action.restarts with
    | true => exact (Nat.zero_min _).symm
    | false =>
      have hinput : (channel.act action).input = channel.input := by
        rw [input_act, Action.text?_eq_none hrestarts]
        rfl
      have hcursor := h.cursor
      rw [hinput]
      by_cases hread : action = .read
      · simp only [hread, true_and, Bool.false_eq_true, if_false, if_true]
        split <;> omega
      · simpa [hread] using hcursor
  · rw [output_act, writtenSince_concat, h.output]
    split
    · rfl
    · exact List.map_append.symm

theorem ahead (h : Recalls history channel) :
    channel.ahead 0 = Text.codeAt (lastText history) (readsSince history) := by
  have hcursor := h.cursor
  unfold Channel.ahead Text.codeAt
  rw [Nat.add_zero, ← List.getElem?_toArray, ← h.input]
  by_cases hleft : readsSince history < channel.input.size
  · rw [hcursor, Nat.min_eq_left hleft.le]
  · rw [Array.getElem?_eq_none (Nat.le_of_not_lt hleft), Array.getElem?_eq_none (by omega)]

theorem remaining (h : Recalls history channel) :
    channel.remaining = (lastText history).length - readsSince history := by
  have hcursor := h.cursor
  have hsize : channel.input.size = (lastText history).length := by
    rw [h.input, List.size_toArray, String.length_toList]
  unfold Channel.remaining
  omega

theorem codes (h : Recalls history channel) :
    channel.output.toList.map (fun code => (code.toNat : Int)) =
      (writtenSince history).map fun value => value.toInt % 65536 := by
  rw [h.output, List.map_map]
  exact List.map_congr_left fun value _ => toNat_toUInt16_word value

end Recalls

theorem recalls_actAll (history : List Action) : Recalls history (actAll {} history) := by
  induction history using List.reverseRecOn with
  | nil => exact ⟨rfl, rfl, rfl⟩
  | append_singleton history action ih =>
    rw [actAll_concat]
    exact ih.act action

theorem answers_append (channel : Channel) (front back : List Action) :
    channel.answers (front ++ back) =
      channel.answers front ++ (channel.actAll front).answers back := by
  induction front generalizing channel with
  | nil => rfl
  | cons action front ih =>
    by_cases hread : action = .read <;> simp [answers, hread, ih, actAll]

theorem length_answers (channel : Channel) (history : List Action) :
    (channel.answers history).length = history.count .read := by
  induction history generalizing channel with
  | nil => rfl
  | cons action history ih =>
    by_cases hread : action = .read <;> simp [answers, hread, ih]

theorem getElem?_answers_read (channel : Channel) (history later : List Action) :
    (channel.answers (history ++ .read :: later))[history.count .read]? =
      some (channel.actAll history).read.1 := by
  rw [answers_append, ← length_answers channel history, List.getElem?_append_right le_rfl,
    Nat.sub_self]
  rfl

theorem toNat_outputText (channel : Channel) : channel.outputText.toList.map Char.toNat =
    channel.output.toList.map fun code =>
      if 0xD800 ≤ code.toNat ∧ code.toNat ≤ 0xDFFF then 0xFFFD else code.toNat := by
  rw [outputText, String.toList_ofList, List.map_map]
  exact List.map_congr_left fun code _ => toNat_codeChar code

/-- Whatever happened to a fresh channel and whatever happens later, a read answers by the text
supplied last and the reads since it was put at its front, and the output is what was written since
it was last cleared, shown with one character for each code. -/
theorem history_gives_answers_and_output (history : List Action) :
    (∀ later, ∃ answer,
      (answers {} (history ++ .read :: later))[history.count .read]? = some answer ∧
      answer.toInt = Text.codeAt (lastText history) (readsSince history)) ∧
    (actAll {} history).remaining = (lastText history).length - readsSince history ∧
    ((actAll {} history).output.toList.map fun code => (code.toNat : Int)) =
      ((writtenSince history).map fun value => value.toInt % 65536) ∧
    (actAll {} history).outputText.toList.map Char.toNat =
      (actAll {} history).output.toList.map fun code =>
        if 0xD800 ≤ code.toNat ∧ code.toNat ≤ 0xDFFF then 0xFFFD else code.toNat := by
  have hrecalls := recalls_actAll history
  refine ⟨?_, hrecalls.remaining, hrecalls.codes, toNat_outputText _⟩
  intro later
  refine ⟨_, getElem?_answers_read {} history later, ?_⟩
  rw [read_eq, hrecalls.ahead, Text.toInt_codeAt]

example : answers {} [.setInput "ab", .read, .write 7, .read, .read, .rewind, .read] =
    [97, 98, 0, 97] := rfl

end Channel

end RegisterMachine
