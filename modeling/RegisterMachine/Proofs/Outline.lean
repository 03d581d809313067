import Mathlib.Data.List.Nodup
import RegisterMachine.Proofs.Assembly
import RegisterMachine.Proofs.Text

/-!
What a program says, apart from where its source says it. The outline of a program is the list of
its actions and the list of its labels with their places. It depends on the statements of the source
alone, and any statements without a repeated label make up a program. With the lines kept as well,
sources of equal statements come to programs of the same content or fail alike.
-/

namespace RegisterMachine

namespace Text

/-- A line that can stand in a text: it holds no line feed and does not end blank. -/
structure Writable (line : String) : Prop where
  oneLine : '\n' ∉ line.toList
  endsSolid : EndsSolid line.toList

def written (lines : List String) : String :=
  String.join (lines.map (· ++ "\n"))

@[simp] theorem toList_written (lines : List String) :
    (written lines).toList = unlines (lines.map String.toList) := by
  simp [written, unlines, String.toList_join, List.flatMap_map]

theorem Writable.getLast?_ne {line : String} (h : Writable line) :
    line.toList.getLast? ≠ some '\r' := by
  obtain ⟨c, hlast, hc⟩ := h.endsSolid
  rintro hreturn
  cases hlast.symm.trans hreturn
  cases hc

theorem lines_written {lines : List String} (h : ∀ line ∈ lines, Writable line) :
    Text.lines (written lines).toList = lines.map String.toList := by
  rw [toList_written]
  apply lines_unlines
  intro line hline
  obtain ⟨text, htext, rfl⟩ := List.mem_map.mp hline
  exact ⟨(h text htext).oneLine, (h text htext).getLast?_ne⟩

end Text

namespace Program

variable {program after : Program} {line : Nat}

def actions (program : Program) : List Source.Action :=
  program.instructions.toList.map fun instruction => ⟨instruction.opcode, instruction.operands⟩

def places (program : Program) : List (String × Nat) :=
  program.labels.map fun label => (label.name, label.target)

@[simp] theorem length_actions (program : Program) : program.actions.length = program.size := by
  simp [actions, size]

section
variable (program : Program) (line : Nat) (text : String) (statement : Source.Statement)

@[simp] theorem actions_extended : (program.extended line text statement).actions =
    program.actions ++ statement.action.toList := by
  obtain ⟨label, action⟩ := statement
  cases label <;> cases action <;> simp [extended, addAction, addLabel, actions]

@[simp] theorem places_extended : (program.extended line text statement).places =
    program.places ++ statement.label.toList.map (·, program.size) := by
  obtain ⟨label, action⟩ := statement
  cases label <;> cases action <;> simp [extended, addAction, addLabel, places]

end

@[simp] theorem size_extended (program : Program) (line : Nat) (text : String)
    (statement : Source.Statement) : (program.extended line text statement).size =
      program.size + statement.action.toList.length := by
  simp [← length_actions]

theorem findLabel?_eq_none_iff_not_mem {name : String} :
    program.findLabel? name = none ↔ name ∉ program.places.map Prod.fst := by
  simp [findLabel?_eq_none_iff, places]

theorem nodup_places {name source : String} (h : assemble name source = .ok program) :
    (program.places.map Prod.fst).Nodup := by
  have hempty : ((empty name).places.map Prod.fst).Nodup := List.nodup_nil
  refine addLines_induction (P := fun program => (program.places.map Prod.fst).Nodup) ?_ hempty h
  intro program line raw _ hnodup hfresh
  generalize Source.Statement.ofLine (Text.dropReturn raw) = statement at hfresh ⊢
  rw [places_extended, List.map_append]
  obtain ⟨label, action⟩ := statement
  cases label with
  | none => simpa using hnodup
  | some name =>
    have hnew := findLabel?_eq_none_iff_not_mem.mp (hfresh name rfl)
    rw [List.nodup_append]
    refine ⟨hnodup, by simp, ?_⟩
    rintro other hother _ hname rfl
    obtain rfl : other = name := by simpa using hname
    exact hnew hother

theorem eq_of_nodup_fst {pairs : List (String × Nat)} (h : (pairs.map Prod.fst).Nodup)
    {name : String} {first second : Nat} (hfirst : (name, first) ∈ pairs)
    (hsecond : (name, second) ∈ pairs) : first = second :=
  congrArg Prod.snd (List.inj_on_of_nodup_map h hfirst hsecond rfl)

theorem mem_places_of_resolve? {name : String} {place : Nat}
    (h : program.resolve? name = some place) : (name, place) ∈ program.places := by
  obtain ⟨label, hlabel, rfl⟩ := Option.map_eq_some_iff.mp h
  obtain rfl : label.name = name := by simpa using List.find?_some hlabel
  exact List.mem_map_of_mem (List.mem_of_find?_eq_some hlabel)

theorem resolve?_eq_some_iff (hnodup : (program.places.map Prod.fst).Nodup) {name : String}
    {place : Nat} : program.resolve? name = some place ↔ (name, place) ∈ program.places := by
  constructor
  · exact mem_places_of_resolve?
  · intro h
    cases hresolve : program.resolve? name with
    | none =>
      rw [resolve?, Option.map_eq_none_iff, findLabel?_eq_none_iff_not_mem] at hresolve
      exact absurd (List.mem_map_of_mem h) hresolve
    | some found =>
      rw [eq_of_nodup_fst hnodup (mem_places_of_resolve? hresolve) h]

/-- Label tables with the same entries are the same table. -/
theorem resolve?_congr {other : Program} (hnodup : (program.places.map Prod.fst).Nodup)
    (hother : (other.places.map Prod.fst).Nodup)
    (h : ∀ name place, (name, place) ∈ program.places ↔ (name, place) ∈ other.places)
    (name : String) : program.resolve? name = other.resolve? name := by
  apply Option.ext
  intro place
  rw [resolve?_eq_some_iff hnodup, resolve?_eq_some_iff hother]
  exact h name place

/-- The places of the labels of some statements, when so many actions stand in front of them. -/
def placesFrom (count : Nat) : List Source.Statement → List (String × Nat)
  | [] => []
  | statement :: rest => statement.label.toList.map (·, count) ++
      placesFrom (count + statement.action.toList.length) rest

def statements (lines : List (List Char)) : List Source.Statement :=
  lines.map fun raw => Source.Statement.ofLine (Text.dropReturn raw)

/-- Lines whose labels are new and differ from each other are all added. -/
theorem addLines_of_nodup {lines : List (List Char)}
    (hnodup : ((program.places ++ placesFrom program.size (statements lines)).map Prod.fst).Nodup) :
    ∃ after, program.addLines line lines = .ok after ∧
      after.actions = program.actions ++ (statements lines).filterMap (·.action) ∧
      after.places = program.places ++ placesFrom program.size (statements lines) := by
  induction lines generalizing program line with
  | nil => exact ⟨program, rfl, (List.append_nil _).symm, (List.append_nil _).symm⟩
  | cons raw lines ih =>
    have hcons : statements (raw :: lines) =
        Source.Statement.ofLine (Text.dropReturn raw) :: statements lines := rfl
    have hplaces : (program.extended line (String.ofList (Text.dropReturn raw))
          (Source.Statement.ofLine (Text.dropReturn raw))).places ++
        placesFrom (program.extended line (String.ofList (Text.dropReturn raw))
          (Source.Statement.ofLine (Text.dropReturn raw))).size (statements lines) =
        program.places ++ placesFrom program.size (statements (raw :: lines)) := by
      rw [places_extended, size_extended, hcons, placesFrom, List.append_assoc]
    have hfresh : ∀ name ∈ (Source.Statement.ofLine (Text.dropReturn raw)).label,
        program.findLabel? name = none := by
      intro name hname
      rw [findLabel?_eq_none_iff_not_mem]
      intro hold
      rw [List.map_append, List.nodup_append] at hnodup
      refine hnodup.2.2 name hold name ?_ rfl
      simp [hcons, placesFrom, Option.mem_def.mp hname]
    rw [← hplaces] at hnodup ⊢
    obtain ⟨after, hafter, hactions, hrest⟩ := ih hnodup
    refine ⟨after, ?_, ?_, hrest⟩
    · exact addLines_cons_eq_ok_iff.mpr ⟨_, addLine_eq_ok_iff.mpr ⟨hfresh, rfl⟩, hafter⟩
    · rw [hactions, actions_extended, hcons, List.append_assoc, List.filterMap_cons]
      cases (Source.Statement.ofLine (Text.dropReturn raw)).action <;> rfl

/-- Two programs say the same on the same lines; only the texts of the lines may differ. -/
structure SameContent (first second : Program) : Prop where
  labels : first.labels = second.labels
  actions : first.actions = second.actions
  lines : first.instructions.toList.map (·.line) = second.instructions.toList.map (·.line)

/-- Two sources come to the same: to programs that say the same, or to the same label on the same
two lines. -/
def SameOutcome : Except DuplicateLabel Program → Except DuplicateLabel Program → Prop
  | .ok first, .ok second => first.SameContent second
  | .error first, .error second => first.label = second.label ∧
      first.firstLine = second.firstLine ∧ first.location.line = second.location.line
  | _, _ => False

theorem SameContent.refl (program : Program) : program.SameContent program := ⟨rfl, rfl, rfl⟩

theorem SameOutcome.refl (outcome : Except DuplicateLabel Program) :
    SameOutcome outcome outcome := by
  cases outcome with
  | ok program => exact SameContent.refl program
  | error duplicate => exact ⟨rfl, rfl, rfl⟩

section
variable {first second : Program}

theorem SameContent.size_eq (h : first.SameContent second) : first.size = second.size := by
  rw [← length_actions, h.actions, length_actions]

theorem SameContent.findLabel?_eq (h : first.SameContent second) (name : String) :
    first.findLabel? name = second.findLabel? name := by
  rw [findLabel?, h.labels, findLabel?]

theorem SameContent.extended (h : first.SameContent second) (line : Nat) (text other : String)
    (statement : Source.Statement) :
    (first.extended line text statement).SameContent (second.extended line other statement) where
  labels := by
    obtain ⟨label, action⟩ := statement
    cases label <;> cases action <;>
      simp [Program.extended, addAction, addLabel, h.labels, h.size_eq]
  actions := by rw [actions_extended, actions_extended, h.actions]
  lines := by
    obtain ⟨label, action⟩ := statement
    cases label <;> cases action <;> simp [Program.extended, addAction, addLabel, h.lines]

theorem SameContent.addLine {raw other : List Char} (h : first.SameContent second)
    (hsame : Source.Statement.ofLine raw = Source.Statement.ofLine other) (line : Nat) :
    SameOutcome (first.addLine line raw) (second.addLine line other) := by
  cases hadd : first.addLine line raw with
  | ok next =>
    obtain ⟨hfresh, rfl⟩ := addLine_eq_ok_iff.mp hadd
    rw [hsame] at hfresh
    simp only [h.findLabel?_eq] at hfresh
    rw [addLine_eq_ok_iff.mpr ⟨hfresh, rfl⟩, hsame]
    exact h.extended line _ _ _
  | error duplicate =>
    obtain ⟨name, found, hname, hfound, rfl⟩ := addLine_eq_error_iff.mp hadd
    rw [hsame] at hname
    rw [h.findLabel?_eq] at hfound
    rw [addLine_eq_error_iff.mpr ⟨name, found, hname, hfound, rfl⟩]
    exact ⟨rfl, rfl, rfl⟩

/-- What becomes of lines depends on their statements alone, up to the texts that are kept. -/
theorem SameContent.addLines {lines others : List (List Char)} (h : first.SameContent second)
    (hlines : statements lines = statements others) (line : Nat) :
    SameOutcome (first.addLines line lines) (second.addLines line others) := by
  induction lines generalizing first second others line with
  | nil =>
    obtain rfl : others = [] := by simpa [statements] using hlines.symm
    exact h
  | cons raw lines ih =>
    cases others with
    | nil => cases hlines
    | cons other others =>
      obtain ⟨hhead, htail⟩ := List.cons.inj hlines
      have hstep := h.addLine hhead line
      simp only [Program.addLines]
      cases hfirst : first.addLine line (Text.dropReturn raw) with
      | ok next =>
        cases hsecond : second.addLine line (Text.dropReturn other) with
        | ok after =>
          rw [hfirst, hsecond] at hstep
          exact ih hstep htail (line + 1)
        | error duplicate =>
          rw [hfirst, hsecond] at hstep
          exact hstep.elim
      | error duplicate =>
        cases hsecond : second.addLine line (Text.dropReturn other) with
        | ok after =>
          rw [hfirst, hsecond] at hstep
          exact hstep.elim
        | error repeated =>
          rw [hfirst, hsecond] at hstep
          exact hstep

end

/-- A source that was written line by line assembles, unless two of its lines define one label. -/
theorem assemble_written {lines : List String} {said : List Source.Statement}
    (hwritable : ∀ line ∈ lines, Text.Writable line)
    (hsaid : lines.map (Source.Statement.ofLine ·.toList) = said)
    (hnodup : ((placesFrom 0 said).map Prod.fst).Nodup) (name : String) :
    ∃ program, assemble name (Text.written lines) = .ok program ∧
      program.actions = said.filterMap (·.action) ∧ program.places = placesFrom 0 said := by
  have hstatements : statements (lines.map String.toList) = said := by
    rw [← hsaid, statements, List.map_map]
    apply List.map_congr_left
    intro line hline
    rw [Function.comp_apply, Text.dropReturn, if_neg (hwritable line hline).getLast?_ne]
  unfold assemble
  rw [Text.lines_written hwritable]
  subst hstatements
  exact addLines_of_nodup hnodup

end Program

end RegisterMachine
