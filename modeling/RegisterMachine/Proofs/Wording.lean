import RegisterMachine.Proofs.Check
import RegisterMachine.Text.Basic

/-!
What can be read off a wording. The characters of one kind at the end of a text are determined by
the text, whatever stands in front of them; so digits behind a blank can be read back. The wording
of a problem tells its line in this way, and problems on different lines have different wordings. No
wording breaks its line unless what it quotes does.
-/

namespace RegisterMachine

namespace Text

section
variable {keep : Char → Bool} {c d : Char} {front other tail more : List Char}

/-- The end of a text, as far as it has characters of one kind only. -/
def trailing (keep : Char → Bool) (text : List Char) : List Char :=
  (text.reverse.takeWhile keep).reverse

theorem trailing_append (hc : keep c = false) (htail : ∀ d ∈ tail, keep d = true)
    (front : List Char) : trailing keep (front ++ c :: tail) = tail := by
  have hreverse : ∀ d ∈ tail.reverse, keep d = true := by
    intro d hd
    exact htail d (List.mem_reverse.mp hd)
  have hstops : (c :: front.reverse).takeWhile keep = [] :=
    List.takeWhile_cons_of_neg (by rw [hc]; exact Bool.false_ne_true)
  have htext : (front ++ c :: tail).reverse = tail.reverse ++ c :: front.reverse := by
    rw [List.reverse_append, List.reverse_cons, List.append_assoc]
    rfl
  rw [trailing, htext, List.takeWhile_append_of_pos hreverse, hstops, List.append_nil,
    List.reverse_reverse]

theorem tail_eq_of_append_eq (hc : keep c = false) (hd : keep d = false)
    (htail : ∀ d ∈ tail, keep d = true) (hmore : ∀ d ∈ more, keep d = true)
    (h : front ++ c :: tail = other ++ d :: more) : tail = more := by
  rw [← trailing_append hc htail front, h, trailing_append hd hmore other]

end

section
variable {c : Char} {n : Nat} {first second text : String}

theorem isDigit_of_mem_toString (h : c ∈ (toString n).toList) : c.isDigit = true := by
  rw [Nat.toString_eq_ofList_toDigits, String.toList_ofList] at h
  exact Nat.isDigit_of_mem_toDigits (by decide) (by decide) h

@[simp] theorem ofDigitChars_toString (n : Nat) :
    Nat.ofDigitChars 10 (toString n).toList 0 = n := by
  rw [Nat.toString_eq_ofList_toDigits, String.toList_ofList, Nat.ofDigitChars_ten_toDigits]

theorem line_eq_of_append_eq {m n : Nat}
    (h : first ++ " on line " ++ toString m ++ "." = second ++ " on line " ++ toString n ++ ".") :
    m = n := by
  have hending : ∀ (front : String) (n : Nat), (front ++ " on line " ++ toString n ++ ".").toList =
      ((front ++ " on line").toList ++ ' ' :: (toString n).toList) ++ ['.'] := by
    intro front n
    simp only [String.toList_append, List.append_assoc]
    rfl
  have hlists := congrArg String.toList h
  rw [hending, hending] at hlists
  have hblank : ' '.isDigit = false := rfl
  have hdigits := tail_eq_of_append_eq hblank hblank (fun _ => isDigit_of_mem_toString)
    (fun _ => isDigit_of_mem_toString) (List.append_cancel_right hlists)
  rw [← ofDigitChars_toString m, hdigits, ofDigitChars_toString n]

theorem getLast?_append_of_some (h : second.toList.getLast? = some c) :
    (first ++ second).toList.getLast? = some c := by
  rw [String.toList_append, List.getLast?_append, h]
  rfl

/-- The character does not occur in the text. -/
def Lacks (c : Char) (text : String) : Prop :=
  c ∉ text.toList

instance (c : Char) (text : String) : Decidable (Lacks c text) :=
  inferInstanceAs (Decidable (c ∉ text.toList))

@[simp] theorem lacks_append : Lacks c (first ++ second) ↔ Lacks c first ∧ Lacks c second := by
  simp only [Lacks, String.toList_append, List.mem_append, not_or]

theorem lacks_of_digits (hc : c.isDigit = false) (h : ∀ d ∈ text.toList, d.isDigit = true) :
    Lacks c text := by
  intro hmem
  cases hc.symm.trans (h c hmem)

theorem lacks_toString (hc : c.isDigit = false) (n : Nat) : Lacks c (toString n) :=
  lacks_of_digits hc fun _ => isDigit_of_mem_toString

theorem lacks_toString_int (hc : c.isDigit = false) (hminus : c ≠ '-') (value : Int) :
    Lacks c (toString value) := by
  cases value with
  | ofNat n => exact lacks_toString hc n
  | negSucc n =>
    have hsign : Lacks c "-" := by
      intro hmem
      exact hminus (List.mem_singleton.mp hmem)
    exact lacks_append.mpr ⟨hsign, lacks_toString hc (n + 1)⟩

theorem lacks_repeated {fill : Char} (h : c ≠ fill) (count : Nat) :
    Lacks c (repeated count fill) := by
  intro hmem
  rw [repeated, String.toList_ofList] at hmem
  exact h (List.eq_of_mem_replicate hmem)

end

end Text

open Text (Lacks lacks_append)

namespace Operand

theorem Kind.lacks_feed_text (kind : Kind) : Lacks '\n' kind.text := by
  cases kind <;> decide

-- The text of the kinds depends on which of the four are admitted, and on nothing else.
theorem Kinds.lacks_feed_text (kinds : Kinds) : Lacks '\n' (Kinds.text kinds) := by
  unfold Kinds.text Kind.all
  simp only [List.filter]
  split <;> split <;> split <;> split <;> decide

theorem Fault.lacks_feed_message (fault : Fault) : Lacks '\n' fault.message := by
  have hnumber : ∀ n : Nat, Lacks '\n' (toString n) := Text.lacks_toString rfl
  cases fault with
  | arity expected found =>
    change Lacks '\n' ("expects " ++ toString expected ++
      (if expected = 1 then " operand" else " operands") ++ ", got " ++ toString found)
    simp only [lacks_append, hnumber, and_true]
    split <;> decide
  | notAllowed found expected =>
    change Lacks '\n' ("expected " ++ Kinds.text expected ++ " operand, got " ++ found.text)
    simp only [lacks_append, Kinds.lacks_feed_text, Kind.lacks_feed_text, and_true]
    decide
  | registerOutOfRange count =>
    change Lacks '\n' ("register index out of range (r0..r" ++ toString (count - 1) ++ ")")
    simp only [lacks_append, hnumber, and_true]
    decide
  | memoryOutOfRange size =>
    change Lacks '\n' ("memory address out of bounds (@0..@" ++ toString (size - 1) ++ ")")
    simp only [lacks_append, hnumber, and_true]
    decide
  | _ => decide

end Operand

namespace Failure

variable {failure first second : Failure} {location here there : Location}

theorem quote_before_line (front : String) (line : Nat) :
    front ++ "' on line " ++ toString line ++ "." =
      (front ++ "'") ++ " on line " ++ toString line ++ "." := by
  rw [← String.toList_inj]
  simp only [String.toList_append, List.append_assoc]
  rfl

/-- The wording of a problem ends with its line. -/
theorem exists_message_eq (hstatic : failure.isStatic = true)
    (hlocation : failure.location? = some location) :
    ∃ front, failure.message = front ++ " on line " ++ toString location.line ++ "." := by
  cases failure with
  | badOperand opcode token fault found =>
    cases hlocation
    cases token with
    | some token => exact ⟨_, quote_before_line _ _⟩
    | none => exact ⟨_, rfl⟩
  | unknownLabel opcode label found =>
    cases hlocation
    exact ⟨_, quote_before_line _ _⟩
  | unknownOpcode mnemonic found =>
    cases hlocation
    exact ⟨_, quote_before_line _ _⟩
  | _ => cases hstatic

/-- Problems on different lines have different wordings. -/
theorem line_eq_of_message_eq (hfirst : first.isStatic = true) (hsecond : second.isStatic = true)
    (hhere : first.location? = some here) (hthere : second.location? = some there)
    (h : first.message = second.message) : here.line = there.line := by
  obtain ⟨front, hfront⟩ := exists_message_eq hfirst hhere
  obtain ⟨other, hother⟩ := exists_message_eq hsecond hthere
  rw [hfront, hother] at h
  exact Text.line_eq_of_append_eq h

/-- The wording of a problem is one line if what it quotes is. -/
theorem lacks_feed_message (hstatic : failure.isStatic = true)
    (htoken : ∀ token ∈ failure.token?, Lacks '\n' token) : Lacks '\n' failure.message := by
  have hnumber : ∀ n : Nat, Lacks '\n' (toString n) := Text.lacks_toString rfl
  have hmnemonic : ∀ opcode : Opcode, Lacks '\n' opcode.mnemonic := by
    intro opcode
    cases opcode <;> decide
  cases failure with
  | badOperand opcode token fault found =>
    cases token with
    | some token =>
      change Lacks '\n' (opcode.mnemonic ++ ": " ++ fault.message ++ " '" ++ token ++
        "' on line " ++ toString found.line ++ ".")
      simp only [lacks_append, hmnemonic, fault.lacks_feed_message, htoken token rfl, hnumber,
        and_true, true_and]
      decide
    | none =>
      change Lacks '\n' (opcode.mnemonic ++ ": " ++ fault.message ++ " on line " ++
        toString found.line ++ ".")
      simp only [lacks_append, hmnemonic, fault.lacks_feed_message, hnumber, and_true, true_and]
      decide
  | unknownLabel opcode label found =>
    change Lacks '\n' (opcode.mnemonic ++ ": unknown label '" ++ label ++ "' on line " ++
      toString found.line ++ ".")
    simp only [lacks_append, hmnemonic, htoken label rfl, hnumber, and_true, true_and]
    decide
  | unknownOpcode mnemonic found =>
    change Lacks '\n' ("Unknown opcode '" ++ mnemonic ++ "' on line " ++
      toString found.line ++ ".")
    simp only [lacks_append, htoken mnemonic rfl, hnumber, and_true]
    decide
  | _ => cases hstatic

end Failure

end RegisterMachine
