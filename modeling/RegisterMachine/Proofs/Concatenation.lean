import RegisterMachine.Proofs.Assembly
import RegisterMachine.Proofs.Text

/-!
Assembling one source after another. Nothing but the labels in use passes from one line to the
next, so whole lines in front of a source change its program only by moving it: its lines come that
much later, and its labels point behind the instructions in front.
-/

namespace RegisterMachine.Program

variable {first second after : Program} {line count : Nat}

def Apart (first second : Program) : Prop :=
  ∀ here ∈ first.labels, ∀ there ∈ second.labels, here.name ≠ there.name

instance (first second : Program) : Decidable (Apart first second) :=
  inferInstanceAs (Decidable (∀ here ∈ first.labels, ∀ there ∈ second.labels,
    here.name ≠ there.name))

/-- A program and, behind it, one whose lines come so much later. -/
def followedBy (first second : Program) (count : Nat) : Program where
  name := first.name
  instructions := first.instructions ++
    second.instructions.map fun instruction => { instruction with line := instruction.line + count }
  labels := first.labels ++
    second.labels.map fun label => ⟨label.name, label.target + first.size, label.line + count⟩

@[simp] theorem followedBy_empty (first : Program) (name : String) (count : Nat) :
    first.followedBy (empty name) count = first := by
  simp [followedBy, empty]

theorem findLabel?_followedBy {name : String} :
    (first.followedBy second count).findLabel? name = none ↔
      first.findLabel? name = none ∧ second.findLabel? name = none := by
  simp only [findLabel?_eq_none_iff, followedBy, List.forall_mem_append, List.forall_mem_map]

theorem resolve?_followedBy (first second : Program) (count : Nat) (name : String) :
    (first.followedBy second count).resolve? name =
      (first.resolve? name).or ((second.resolve? name).map (· + first.size)) := by
  simp only [resolve?, findLabel?, followedBy, List.find?_append, Option.map_or, List.find?_map,
    Option.map_map]
  rfl

section
variable {text : String} {statement : Source.Statement}

theorem extended_followedBy (first second : Program) (line count : Nat) (text : String)
    (statement : Source.Statement) :
    (first.followedBy second count).extended (line + count) text statement =
      first.followedBy (second.extended line text statement) count := by
  obtain ⟨label, action⟩ := statement
  cases label <;> cases action <;>
    simp [extended, addAction, addLabel, followedBy, size, Nat.add_comm]

theorem apart_extended_iff : Apart first (second.extended line text statement) ↔
    Apart first second ∧ ∀ name ∈ statement.label, first.findLabel? name = none := by
  simp only [Apart, mem_labels_extended, findLabel?_eq_none_iff]
  constructor
  · intro h
    constructor
    · intro here hhere there hthere
      exact h here hhere there (.inl hthere)
    · intro name hname here hhere
      exact h here hhere _ (.inr ⟨name, hname, rfl⟩)
  · rintro ⟨hsecond, hfresh⟩ here hhere there (hthere | ⟨name, hname, rfl⟩)
    · exact hsecond here hhere there hthere
    · exact hfresh name hname here hhere

end

theorem Apart.addLine_followedBy_iff {raw : List Char} (h : Apart first second) :
    (first.followedBy second count).addLine (line + count) raw = .ok after ↔
      ∃ next, second.addLine line raw = .ok next ∧ Apart first next ∧
        first.followedBy next count = after := by
  simp only [addLine_eq_ok_iff, findLabel?_followedBy, extended_followedBy]
  constructor
  · rintro ⟨hfresh, rfl⟩
    refine ⟨_, ⟨fun name hname => (hfresh name hname).2, rfl⟩, ?_, rfl⟩
    exact apart_extended_iff.mpr ⟨h, fun name hname => (hfresh name hname).1⟩
  · rintro ⟨_, ⟨hsecond, rfl⟩, hapart, rfl⟩
    have hfirst := (apart_extended_iff.mp hapart).2
    exact ⟨fun name hname => ⟨hfirst name hname, hsecond name hname⟩, rfl⟩

theorem Apart.of_addLines {lines : List (List Char)} (h : Apart first after)
    (hadd : second.addLines line lines = .ok after) : Apart first second := by
  have hlabels : ∀ label ∈ second.labels, label ∈ after.labels := by
    refine addLines_induction (P := fun after => ∀ label ∈ second.labels, label ∈ after.labels) ?_
      (fun _ => id) hadd
    intro program line raw _ hprogram _ label hlabel
    exact mem_labels_extended.mpr (.inl (hprogram label hlabel))
  intro here hhere there hthere
  exact h here hhere there (hlabels there hthere)

/-- Lines that come after a program are added as they are to a program of their own, unless one of
their labels is taken. -/
theorem Apart.addLines_followedBy_iff {lines : List (List Char)} (h : Apart first second) :
    (first.followedBy second count).addLines (line + count) lines = .ok after ↔
      ∃ rest, second.addLines line lines = .ok rest ∧ Apart first rest ∧
        first.followedBy rest count = after := by
  induction lines generalizing second line with
  | nil => simp [addLines, h]
  | cons raw lines ih =>
    simp only [addLines_cons_eq_ok_iff, h.addLine_followedBy_iff]
    constructor
    · rintro ⟨_, ⟨next, hnext, hapart, rfl⟩, hrest⟩
      rw [Nat.add_right_comm] at hrest
      obtain ⟨rest, hlines, hresult⟩ := (ih hapart).mp hrest
      exact ⟨rest, ⟨next, hnext, hlines⟩, hresult⟩
    · rintro ⟨rest, ⟨next, hnext, hlines⟩, hapart, hafter⟩
      have hnextApart := hapart.of_addLines hlines
      refine ⟨_, ⟨next, hnext, hnextApart, rfl⟩, ?_⟩
      rw [Nat.add_right_comm]
      exact (ih hnextApart).mpr ⟨rest, hlines, hapart, hafter⟩

section
variable {name front back : String}

theorem assemble_append_of_ok (hended : Text.Ended front.toList)
    (hfirst : assemble name front = .ok first) :
    assemble name (front ++ back) = .ok after ↔
      ∃ rest, assemble name back = .ok rest ∧ Apart first rest ∧
        first.followedBy rest (front.toList.count '\n') = after := by
  have hapart : Apart first (empty name) := fun _ _ _ hthere => absurd hthere List.not_mem_nil
  unfold assemble at hfirst ⊢
  rw [String.toList_append, Text.lines_append hended, addLines_append_of_ok hfirst,
    Text.length_lines hended, ← hapart.addLines_followedBy_iff, followedBy_empty]

theorem assemble_append_of_error {duplicate : DuplicateLabel} (hended : Text.Ended front.toList)
    (h : assemble name front = .error duplicate) :
    assemble name (front ++ back) = .error duplicate := by
  unfold assemble at h ⊢
  rw [String.toList_append, Text.lines_append hended]
  exact addLines_append_of_error h _

theorem ended_toList (h : front = "" ∨ ∃ text, front = text ++ "\n") :
    Text.Ended front.toList := by
  rcases h with rfl | ⟨text, rfl⟩
  · intro c hc
    cases hc
  · rw [String.toList_append]
    exact Text.ended_append_feed _

/-- Two sources, the first of which is made of whole lines, assemble together exactly when each of
them does and no label is in both. The program is then that of the first followed by that of the
second, with lines moved by the lines and labels by the instructions of the first. A failure of the
first is the failure of both. -/
theorem assemble_append (hended : front = "" ∨ ∃ text, front = text ++ "\n")
    (name back : String) :
    (∀ duplicate, assemble name front = .error duplicate →
      assemble name (front ++ back) = .error duplicate) ∧
    ((∃ whole, assemble name (front ++ back) = .ok whole) ↔
      ∃ first second, assemble name front = .ok first ∧ assemble name back = .ok second ∧
        Apart first second) ∧
    ∀ first second whole, assemble name front = .ok first → assemble name back = .ok second →
      assemble name (front ++ back) = .ok whole →
      whole.name = name ∧
      whole.instructions = first.instructions ++ second.instructions.map (fun instruction =>
        { instruction with line := instruction.line + front.toList.count '\n' }) ∧
      whole.labels = first.labels ++ second.labels.map (fun label =>
        { label with
          target := label.target + first.size
          line := label.line + front.toList.count '\n' }) ∧
      ∀ label, whole.resolve? label =
        (first.resolve? label).or ((second.resolve? label).map (· + first.size)) := by
  have hended := ended_toList hended
  refine ⟨fun duplicate h => assemble_append_of_error hended h, ?_, ?_⟩
  · constructor
    · rintro ⟨whole, hwhole⟩
      cases hfront : assemble name front with
      | error duplicate =>
        rw [assemble_append_of_error hended hfront] at hwhole
        cases hwhole
      | ok first =>
        obtain ⟨second, hback, hapart, _⟩ := (assemble_append_of_ok hended hfront).mp hwhole
        exact ⟨first, second, rfl, hback, hapart⟩
    · rintro ⟨first, second, hfront, hback, hapart⟩
      exact ⟨_, (assemble_append_of_ok hended hfront).mpr ⟨second, hback, hapart, rfl⟩⟩
  · intro first second whole hfront hback hwhole
    have hname := name_of_assemble hwhole
    obtain ⟨rest, hrest, _, rfl⟩ := (assemble_append_of_ok hended hfront).mp hwhole
    obtain rfl : second = rest := Except.ok.inj (hback.symm.trans hrest)
    exact ⟨hname, rfl, rfl, resolve?_followedBy _ _ _⟩

/-- A label at the end of the second source moves behind the instructions of both. -/
theorem assemble_append_loop :
    ∃ whole, assemble "loop" ("a: INC r0 ; b:\r\n" ++ "JMP a\nb:") = .ok whole ∧
      whole.instructions.map (·.line) = #[1, 2] ∧ whole.resolve? "b" = some 2 := by
  have hfront : assemble "loop" "a: INC r0 ; b:\r\n" =
      .ok ⟨"loop", #[⟨"INC", ["r0"], 1, "a: INC r0 ; b:"⟩], [⟨"a", 0, 1⟩]⟩ := rfl
  have hback : assemble "loop" "JMP a\nb:" =
      .ok ⟨"loop", #[⟨"JMP", ["a"], 1, "JMP a"⟩], [⟨"b", 1, 2⟩]⟩ := rfl
  obtain ⟨_, hok, hwhole⟩ :=
    assemble_append (.inr ⟨"a: INC r0 ; b:\r", rfl⟩) "loop" "JMP a\nb:"
  obtain ⟨whole, h⟩ := hok.mpr ⟨_, _, hfront, hback, by decide⟩
  obtain ⟨_, hinstructions, _, hlabels⟩ := hwhole _ _ whole hfront hback h
  have hcount : ("a: INC r0 ; b:\r" ++ "\n").toList.count '\n' = 1 := rfl
  refine ⟨whole, h, ?_, ?_⟩
  · rw [hinstructions, hcount]
    simp
  · rw [hlabels]
    rfl

end

end RegisterMachine.Program
