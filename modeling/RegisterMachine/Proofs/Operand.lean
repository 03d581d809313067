import RegisterMachine.Operand.Basic

/-!
What resolving an operand promises. An index that resolves lies inside every machine of the
configuration, and the same token means the same operand on a larger machine. A token is cut only
between its characters, whatever it is made of.
-/

namespace RegisterMachine

theorem map_eq_ok_iff {α β ε : Type} {f : α → β} {x : Except ε α} {b : β} :
    x.map f = .ok b ↔ ∃ a, b = f a ∧ x = .ok a := by
  cases x with
  | error e => simp [Except.map]
  | ok a => simp [Except.map, eq_comm]

theorem map_eq_error_iff {α β ε : Type} {f : α → β} {x : Except ε α} {e : ε} :
    x.map f = .error e ↔ x = .error e := by
  cases x with
  | error e => simp [Except.map]
  | ok a => simp [Except.map]

/-- Bytes `start` up to `stop` can be cut out of the text: they come in order, and both ends fall
between characters of the text. -/
structure Text.Sliceable (text : String) (start stop : Nat) : Prop where
  ordered : start ≤ stop
  start_valid : (String.Pos.Raw.mk start).IsValid text
  stop_valid : (String.Pos.Raw.mk stop).IsValid text

theorem Text.sliceable_rest {text : String} {first : Char} (hfirst : text.toList.head? = some first)
    (hsize : first.utf8Size = 1) : Sliceable text 1 text.utf8ByteSize := by
  obtain ⟨rest, hrest⟩ : ∃ rest, text.toList = first :: rest := by
    cases htext : text.toList with
    | nil => simp [htext] at hfirst
    | cons c rest => exact ⟨rest, by simpa [htext] using hfirst⟩
  have htext : text = String.singleton first ++ String.ofList rest := by
    rw [← String.toList_inj, hrest]
    simp
  refine ⟨?_, ?_, String.Pos.Raw.isValid_rawEndPos⟩
  · rw [htext, String.utf8ByteSize_append, String.utf8ByteSize_singleton]
    omega
  · exact String.Pos.Raw.isValid_iff_exists_append.mpr
      ⟨_, _, htext, by simp [String.Pos.Raw.ext_iff, hsize]⟩

/-- A text whose outer characters take one byte each can be cut inside both of them. -/
theorem Text.sliceable_middle {text : String} {first last : Char}
    (hfirst : text.toList.head? = some first) (hfirstSize : first.utf8Size = 1)
    (hlast : text.toList.getLast? = some last) (hlastSize : last.utf8Size = 1)
    (hlong : 2 ≤ text.utf8ByteSize) : Sliceable text 1 (text.utf8ByteSize - 1) := by
  obtain ⟨front, hfront⟩ := List.getLast?_eq_some_iff.mp hlast
  have htext : text = String.ofList front ++ String.singleton last := by
    rw [← String.toList_inj, hfront]
    simp
  have hsize : text.utf8ByteSize = (String.ofList front).utf8ByteSize + 1 := by
    rw [htext, String.utf8ByteSize_append, String.utf8ByteSize_singleton, hlastSize]
  refine ⟨by omega, (sliceable_rest hfirst hfirstSize).start_valid, ?_⟩
  have hstop : text.utf8ByteSize - 1 = (String.ofList front).utf8ByteSize := by omega
  exact String.Pos.Raw.isValid_iff_exists_append.mpr ⟨_, _, htext, String.Pos.Raw.ext hstop⟩

namespace Operand

def Means (token : String) (config : Config) (operand : Operand) : Prop :=
  match classify token.toList with
  | .register => ∃ index, operand = .register index ∧
      Text.numeral? 10 token.toList.tail = some index ∧ index < config.registerCount
  | .memory => ∃ address, operand = .memory address ∧
      Text.numeral? 10 token.toList.tail = some address ∧ address < config.memorySize
  | .immediate => ∃ value, operand = .immediate value ∧ immediateValue token.toList = .ok value
  | .label => operand = .label token

def Within (config : Config) : Operand → Prop
  | register index => index < config.registerCount
  | memory address => address < config.memorySize
  | immediate _ => True
  | label _ => True

theorem bounded_eq_ok_iff {found : Option Nat} {bound index : Nat} {outside absent : Fault} :
    (match found with
      | some n => if n < bound then Except.ok n else .error outside
      | none => .error absent) = .ok index ↔ found = some index ∧ index < bound := by
  cases found with
  | none => simp
  | some n =>
    by_cases hn : n < bound
    · simp only [hn, ite_true, Except.ok.injEq, Option.some.injEq]
      constructor
      · rintro rfl
        exact ⟨rfl, hn⟩
      · exact fun h => h.1
    · simp only [hn, ite_false, reduceCtorEq, Option.some.injEq, false_iff]
      rintro ⟨rfl, hindex⟩
      exact hn hindex

theorem registerIndex_eq_ok_iff {token : List Char} {count index : Nat} :
    registerIndex token count = .ok index ↔
      Text.numeral? 10 token.tail = some index ∧ index < count :=
  bounded_eq_ok_iff

theorem memoryAddress_eq_ok_iff {token : List Char} {size address : Nat} :
    memoryAddress token size = .ok address ↔
      Text.numeral? 10 token.tail = some address ∧ address < size := by
  unfold memoryAddress
  split
  · rename_i hempty
    simp [hempty, Text.numeral?]
  · exact bounded_eq_ok_iff

/-- A token resolves to its meaning where its kind is admitted, and to nothing else. -/
theorem resolve_eq_ok_iff {token : String} {allowed : Kinds} {config : Config}
    {operand : Operand} :
    resolve token allowed config = .ok operand ↔
      Kinds.admits allowed (classify token.toList) = true ∧ Means token config operand := by
  unfold resolve Means
  by_cases hadmits : Kinds.admits allowed (classify token.toList) = true
  · simp only [hadmits, ite_true, true_and]
    cases classify token.toList with
    | register => simp only [map_eq_ok_iff, registerIndex_eq_ok_iff]
    | memory => simp only [map_eq_ok_iff, memoryAddress_eq_ok_iff]
    | immediate => simp only [map_eq_ok_iff]
    | label => simp only [Except.ok.injEq, eq_comm]
  · simp [hadmits]

theorem Means.within {token : String} {config : Config} {operand : Operand}
    (h : Means token config operand) : operand.Within config := by
  unfold Means at h
  split at h
  · obtain ⟨index, rfl, _, hindex⟩ := h
    exact hindex
  · obtain ⟨address, rfl, _, haddress⟩ := h
    exact haddress
  · obtain ⟨value, rfl, _⟩ := h
    trivial
  · subst h
    trivial

theorem Means.enlarge {token : String} {config larger : Config} {operand : Operand}
    (h : Means token config operand) (hregisters : config.registerCount ≤ larger.registerCount)
    (hmemory : config.memorySize ≤ larger.memorySize) : Means token larger operand := by
  unfold Means at h ⊢
  split at h
  · obtain ⟨index, hoperand, hnumeral, hindex⟩ := h
    exact ⟨index, hoperand, hnumeral, by omega⟩
  · obtain ⟨address, hoperand, hnumeral, haddress⟩ := h
    exact ⟨address, hoperand, hnumeral, by omega⟩
  · exact h
  · exact h

theorem resolve_enlarge {token : String} {allowed : Kinds} {config larger : Config}
    {operand : Operand} (h : resolve token allowed config = .ok operand)
    (hregisters : config.registerCount ≤ larger.registerCount)
    (hmemory : config.memorySize ≤ larger.memorySize) :
    resolve token allowed larger = .ok operand := by
  obtain ⟨hadmits, hmeans⟩ := resolve_eq_ok_iff.mp h
  exact resolve_eq_ok_iff.mpr ⟨hadmits, hmeans.enlarge hregisters hmemory⟩

theorem utf8Size_of_isQuote {c : Char} (h : Source.isQuote c = true) : c.utf8Size = 1 := by
  rcases (by simpa [Source.isQuote] using h : c = '\'' ∨ c = '"') with rfl | rfl <;> decide

theorem isQuoted_cases {token : List Char} (h : isQuoted token = true) :
    ∃ quote, quote.utf8Size = 1 ∧ token.head? = some quote ∧ token.getLast? = some quote := by
  cases token with
  | nil => simp [isQuoted] at h
  | cons c rest =>
    simp only [isQuoted, Bool.and_eq_true, beq_iff_eq] at h
    exact ⟨c, utf8Size_of_isQuote h.1, rfl, h.2⟩

theorem charCode_ne_splitCharacter {token : List Char} (h : isQuoted token = true) :
    Literal.charCode token ≠ .error .splitCharacter := by
  obtain ⟨quote, hsize, hhead, hlast⟩ := isQuoted_cases h
  have hbody : Literal.body? token ≠ none := by
    unfold Literal.body?
    split
    · simp
    · simp [hhead, hlast, hsize]
  unfold Literal.charCode
  split <;> (try split) <;> simp_all

theorem signed_eq_error {negative : Bool} {radix : Nat} {digits : List Char} {fault : Fault}
    (h : Literal.signed negative radix digits = .error fault) : fault = .malformedNumber := by
  unfold Literal.signed at h
  cases hnumeral : Text.numeral? radix digits with
  | none => exact (by simpa [hnumeral] using h : _ = fault).symm
  | some magnitude =>
    rw [hnumeral] at h
    generalize hvalue : (if negative then -magnitude else magnitude : Int) = value at h
    by_cases hfits : Literal.fits value = true
    · simp [hvalue, hfits] at h
    · exact (by simpa [hvalue, hfits] using h : _ = fault).symm

theorem number_eq_error {token : List Char} {fault : Fault}
    (h : Literal.number token = .error fault) : fault = .malformedNumber := by
  unfold Literal.number at h
  split at h <;> exact signed_eq_error h

theorem immediateValue_ne_splitCharacter (token : List Char) :
    immediateValue token ≠ .error .splitCharacter := by
  unfold immediateValue
  split
  · exact charCode_ne_splitCharacter ‹_›
  · intro h
    cases number_eq_error h

theorem resolve_ne_splitCharacter (token : String) (allowed : Kinds) (config : Config) :
    resolve token allowed config ≠ .error .splitCharacter := by
  unfold resolve
  simp only
  split
  · split
    · rw [ne_eq, map_eq_error_iff]
      unfold registerIndex
      split <;> (try split) <;> simp
    · rw [ne_eq, map_eq_error_iff]
      unfold memoryAddress
      split <;> (try split) <;> (try split) <;> simp
    · rw [ne_eq, map_eq_error_iff]
      exact immediateValue_ne_splitCharacter _
    · simp
  · simp

theorem head?_of_classify_register {token : List Char} (h : classify token = .register) :
    token.head? = some 'r' ∨ token.head? = some 'R' := by
  have hshaped : isRegisterShaped token = true := by
    unfold classify at h
    split at h
    · assumption
    · split at h <;> (try split at h) <;> (try split at h) <;> cases h
  cases token with
  | nil => simp [isRegisterShaped] at hshaped
  | cons c rest =>
    cases rest with
    | nil => simp [isRegisterShaped] at hshaped
    | cons d rest =>
      simp only [isRegisterShaped, Bool.and_eq_true, Bool.or_eq_true, beq_iff_eq] at hshaped
      simpa using hshaped.1

theorem head?_of_classify_memory {token : List Char} (h : classify token = .memory) :
    token.head? = some '@' := by
  unfold classify at h
  split at h
  · cases h
  · split at h
    · simpa using ‹(token.head? == some '@') = true›
    · split at h <;> (try split at h) <;> cases h

theorem sliceable_of_classify_register {token : String}
    (h : classify token.toList = .register) : Text.Sliceable token 1 token.utf8ByteSize := by
  rcases head?_of_classify_register h with hhead | hhead
  · exact Text.sliceable_rest hhead (by decide)
  · exact Text.sliceable_rest hhead (by decide)

theorem sliceable_of_classify_memory {token : String} (h : classify token.toList = .memory) :
    Text.Sliceable token 1 token.utf8ByteSize :=
  Text.sliceable_rest (head?_of_classify_memory h) (by decide)

theorem sliceable_of_isQuoted {token : String} (h : isQuoted token.toList = true)
    (hlong : 2 ≤ token.utf8ByteSize) : Text.Sliceable token 1 (token.utf8ByteSize - 1) := by
  obtain ⟨quote, hsize, hhead, hlast⟩ := isQuoted_cases h
  exact Text.sliceable_middle hhead hsize hlast hsize hlong

end Operand

end RegisterMachine
