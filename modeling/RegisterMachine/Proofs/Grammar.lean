import RegisterMachine.Proofs.Literal
import RegisterMachine.Proofs.Statement

/-!
The grammar of operands. A token has one of five shapes. Each shape says which tokens of it have a
meaning, and what is wrong with the others; the kind of the shape is asked for first. Digits may be
as many as they like: what they spell is compared with the sizes of the machine and nothing else.
-/

namespace RegisterMachine

namespace Text

variable {digits : List Char}

def Decimal (digits : List Char) : Prop :=
  digits ≠ [] ∧ ∀ c ∈ digits, c.isDigit = true

def decimalValue (digits : List Char) : Nat :=
  Nat.ofDigitChars 10 digits 0

theorem isDigitOf_ten (c : Char) : isDigitOf 10 c = c.isDigit := by
  unfold isDigitOf digitValue
  by_cases hdigit : c.isDigit = true
  · have hbounds := Char.isDigit_iff_toNat.mp hdigit
    have hzero : '0'.toNat = 48 := rfl
    have hnine : '9'.toNat = 57 := rfl
    rw [if_pos hdigit, hdigit, decide_eq_true]
    omega
  · rw [if_neg hdigit, Bool.eq_false_iff.mpr hdigit]
    split
    · rename_i hletter
      simp only [Bool.and_eq_true, decide_eq_true_eq] at hletter
      exact decide_eq_false (by omega)
    · rfl

theorem numeralValue_ten (h : ∀ c ∈ digits, c.isDigit = true) :
    numeralValue 10 digits = decimalValue digits := by
  have hfold : ∀ start, digits.foldl (fun value c => value * 10 + digitValue c) start =
      Nat.ofDigitChars 10 digits start := by
    induction digits with
    | nil =>
      intro start
      rfl
    | cons c digits ih =>
      intro start
      obtain ⟨hc, hdigits⟩ := List.forall_mem_cons.mp h
      have hvalue : digitValue c = c.toNat - '0'.toNat := if_pos hc
      rw [List.foldl_cons, ih hdigits, Nat.ofDigitChars_cons, hvalue, Nat.mul_comm]
  exact hfold 0

theorem numeral?_of_decimal (h : Decimal digits) :
    numeral? 10 digits = some (decimalValue digits) := by
  obtain ⟨hne, hdigits⟩ := h
  have hall : digits.all (isDigitOf 10) = true := by
    rw [List.all_eq_true]
    intro c hc
    rw [isDigitOf_ten, hdigits c hc]
  unfold numeral?
  rw [List.isEmpty_eq_false_iff.mpr hne, hall, numeralValue_ten hdigits]
  rfl

theorem numeral?_of_not_decimal (h : ¬ Decimal digits) : numeral? 10 digits = none := by
  unfold numeral?
  rw [if_pos]
  by_cases hempty : digits = []
  · simp [hempty]
  · have hall : ¬ digits.all (isDigitOf 10) = true := by
      intro hall
      apply h
      refine ⟨hempty, ?_⟩
      intro c hc
      rw [← isDigitOf_ten]
      exact List.all_eq_true.mp hall c hc
    simp [hall]

end Text

namespace Operand

variable {token : List Char} {kind : Kind}

/-- A letter `r` with decimal digits behind it. -/
def RegisterShaped (token : List Char) : Prop :=
  ∃ letter digits, token = letter :: digits ∧ (letter = 'r' ∨ letter = 'R') ∧ Text.Decimal digits

/-- A token that begins and ends with the same quote. -/
def QuoteShaped (token : List Char) : Prop :=
  ∃ quote, Source.isQuote quote = true ∧ token.head? = some quote ∧ token.getLast? = some quote

/-- A token of none of the shapes of registers, addresses, quoted characters and names. -/
structure Unshaped (token : List Char) : Prop where
  register : ¬ RegisterShaped token
  memory : token.head? ≠ some '@'
  quoted : ¬ QuoteShaped token
  name : Source.isIdentifier token = false

/-- The kind that a token has by its shape. -/
inductive HasShape : List Char → Kind → Prop where
  | register {token : List Char} (h : RegisterShaped token) : HasShape token .register
  | memory (rest : List Char) : HasShape ('@' :: rest) .memory
  | quoted {token : List Char} (h : QuoteShaped token) : HasShape token .immediate
  | label {token : List Char} (hname : Source.isIdentifier token = true)
      (hregister : ¬ RegisterShaped token) : HasShape token .label
  | number {token : List Char} (h : Unshaped token) : HasShape token .immediate

theorem isRegisterShaped_iff : isRegisterShaped token = true ↔ RegisterShaped token := by
  constructor
  · intro h
    cases token with
    | nil => cases h
    | cons letter digits =>
      cases digits with
      | nil => cases h
      | cons d rest =>
        simp only [isRegisterShaped, Bool.and_eq_true, Bool.or_eq_true, beq_iff_eq,
          List.all_eq_true] at h
        exact ⟨letter, d :: rest, rfl, h.1, List.cons_ne_nil d rest, h.2⟩
  · rintro ⟨letter, digits, rfl, hletter, hne, hdigits⟩
    obtain ⟨d, rest, rfl⟩ := List.exists_cons_of_ne_nil hne
    simp only [isRegisterShaped, Bool.and_eq_true, Bool.or_eq_true, beq_iff_eq, List.all_eq_true]
    exact ⟨hletter, hdigits⟩

theorem isQuoted_iff : isQuoted token = true ↔ QuoteShaped token := by
  cases token with
  | nil =>
    constructor
    · intro h
      cases h
    · rintro ⟨quote, _, hhead, _⟩
      cases hhead
  | cons c rest =>
    simp only [isQuoted, Bool.and_eq_true, beq_iff_eq]
    constructor
    · rintro ⟨hquote, hlast⟩
      exact ⟨c, hquote, rfl, hlast⟩
    · rintro ⟨quote, hquote, hhead, hlast⟩
      cases hhead
      exact ⟨hquote, hlast⟩

theorem hasShape_classify (token : List Char) : HasShape token (classify token) := by
  unfold classify
  split
  · exact .register (isRegisterShaped_iff.mp ‹_›)
  · rename_i hregister
    rw [isRegisterShaped_iff] at hregister
    split
    · rename_i hmemory
      obtain ⟨rest, rfl⟩ := List.head?_eq_some_iff.mp (beq_iff_eq.mp hmemory)
      exact .memory rest
    · rename_i hmemory
      split
      · exact .quoted (isQuoted_iff.mp ‹_›)
      · rename_i hquoted
        rw [isQuoted_iff] at hquoted
        split
        · exact .label ‹_› hregister
        · rename_i hname
          have hhead := mt beq_iff_eq.mpr hmemory
          exact .number ⟨hregister, hhead, hquoted, Bool.eq_false_iff.mpr hname⟩

theorem not_registerShaped_of_head {c : Char} {rest : List Char} (hlower : c ≠ 'r')
    (hupper : c ≠ 'R') : isRegisterShaped (c :: rest) = false := by
  rw [Bool.eq_false_iff, ne_eq, isRegisterShaped_iff]
  rintro ⟨letter, digits, htoken, hletter, _⟩
  cases htoken
  rcases hletter with rfl | rfl
  · exact hlower rfl
  · exact hupper rfl

/-- An identifier is a label unless it has the shape of a register. -/
theorem classify_eq_label_iff {token : List Char} :
    classify token = .label ↔
      Source.isIdentifier token = true ∧ isRegisterShaped token = false := by
  constructor
  · intro h
    have hshape := hasShape_classify token
    rw [h] at hshape
    cases hshape with
    | label hname hregister =>
      rw [← isRegisterShaped_iff, Bool.not_eq_true] at hregister
      exact ⟨hname, hregister⟩
  · rintro ⟨hname, hregister⟩
    cases token with
    | nil => cases hname
    | cons c rest =>
      have hword := Source.isWordChar_of_isIdentifier hname c List.mem_cons_self
      have hquoted : isQuoted (c :: rest) = false := by
        simp only [isQuoted, Source.isQuote_of_isWordChar hword, Bool.false_and]
      have haddress : ((c :: rest).head? == some '@') = false := by
        rw [List.head?_cons, beq_eq_false_iff_ne]
        intro hc
        cases hc
        cases hword
      simp only [classify, hregister, haddress, hquoted, hname, Bool.false_eq_true, ite_false,
        ite_true]

/-- The shapes are told apart by the order in which they are tried. -/
theorem HasShape.classify_eq (h : HasShape token kind) : classify token = kind := by
  cases h with
  | register h =>
    unfold classify
    rw [if_pos (isRegisterShaped_iff.mpr h)]
  | memory rest =>
    have hregister : isRegisterShaped ('@' :: rest) = false :=
      not_registerShaped_of_head (by decide) (by decide)
    unfold classify
    rw [hregister]
    rfl
  | quoted h =>
    have hquoted := isQuoted_iff.mpr h
    obtain ⟨quote, hquote, hhead, _⟩ := h
    obtain ⟨rest, rfl⟩ := List.head?_eq_some_iff.mp hhead
    have hcases : quote = '\'' ∨ quote = '"' := by simpa [Source.isQuote] using hquote
    have hregister : isRegisterShaped (quote :: rest) = false := by
      rcases hcases with rfl | rfl <;> exact not_registerShaped_of_head (by decide) (by decide)
    have hmemory : ((quote :: rest).head? == some '@') = false := by
      rcases hcases with rfl | rfl <;> rfl
    simp only [classify, hregister, hmemory, hquoted, Bool.false_eq_true, ite_false, ite_true]
  | label hname hregister =>
    rw [← isRegisterShaped_iff, Bool.not_eq_true] at hregister
    exact classify_eq_label_iff.mpr ⟨hname, hregister⟩
  | number h =>
    have hregister := Bool.eq_false_iff.mpr (mt isRegisterShaped_iff.mp h.register)
    have hhead : (token.head? == some '@') = false := beq_eq_false_iff_ne.mpr h.memory
    have hquoted := Bool.eq_false_iff.mpr (mt isQuoted_iff.mp h.quoted)
    simp only [classify, hregister, hhead, hquoted, h.name, Bool.false_eq_true, ite_false]

/-- The letters that a backslash gives another meaning, and what they then stand for. -/
def escapes : List (Char × Char) :=
  [('n', '\n'), ('r', '\r'), ('t', '\t'), ('\\', '\\'), ('\'', '\''), ('"', '"')]

theorem escape?_eq_some_iff {letter c : Char} :
    Literal.escape? letter = some c ↔ (letter, c) ∈ escapes := by
  constructor
  · intro h
    unfold Literal.escape? at h
    split at h <;> cases h <;> decide
  · intro h
    simp only [escapes, List.mem_cons, Prod.mk.injEq, List.not_mem_nil, or_false] at h
    rcases h with ⟨rfl, rfl⟩ | ⟨rfl, rfl⟩ | ⟨rfl, rfl⟩ | ⟨rfl, rfl⟩ | ⟨rfl, rfl⟩ | ⟨rfl, rfl⟩
    all_goals rfl

/-- The tokens that have a meaning, and what they mean. -/
inductive Denotes (config : Config) : List Char → Operand → Prop where
  | register {letter : Char} {digits : List Char} (hletter : letter = 'r' ∨ letter = 'R')
      (hdigits : Text.Decimal digits) (hlt : Text.decimalValue digits < config.registerCount) :
      Denotes config (letter :: digits) (.register (Text.decimalValue digits))
  | memory {digits : List Char} (hdigits : Text.Decimal digits)
      (hlt : Text.decimalValue digits < config.memorySize) :
      Denotes config ('@' :: digits) (.memory (Text.decimalValue digits))
  | label {token : List Char} (hname : Source.isIdentifier token = true)
      (hregister : ¬ RegisterShaped token) : Denotes config token (.label (String.ofList token))
  | character {quote : Char} (hquote : Source.isQuote quote = true) (c : Char) :
      Denotes config [quote, c, quote] (.immediate c.toNat)
  | escape {quote letter c : Char} (hquote : Source.isQuote quote = true)
      (hescape : (letter, c) ∈ escapes) :
      Denotes config [quote, '\\', letter, quote] (.immediate c.toNat)
  | number {token : List Char} {value : Int} (hshape : Unshaped token)
      (hvalue : Literal.number token = .ok value) : Denotes config token (.immediate value)

/-- What is wrong with a token that has none. -/
inductive Faulty (config : Config) : List Char → Fault → Prop where
  | register {letter : Char} {digits : List Char} (hletter : letter = 'r' ∨ letter = 'R')
      (hdigits : Text.Decimal digits) (hle : config.registerCount ≤ Text.decimalValue digits) :
      Faulty config (letter :: digits) (.registerOutOfRange config.registerCount)
  | bareSign : Faulty config ['@'] .missingAddress
  | address {rest : List Char} (hne : rest ≠ []) (hrest : ¬ ∀ c ∈ rest, c.isDigit = true) :
      Faulty config ('@' :: rest) .nonNumericAddress
  | memory {digits : List Char} (hdigits : Text.Decimal digits)
      (hle : config.memorySize ≤ Text.decimalValue digits) :
      Faulty config ('@' :: digits) (.memoryOutOfRange config.memorySize)
  | bareQuote {quote : Char} (hquote : Source.isQuote quote = true) :
      Faulty config [quote] .emptyLiteral
  | empty {quote : Char} (hquote : Source.isQuote quote = true) :
      Faulty config [quote, quote] .emptyLiteral
  | escape {quote letter : Char} (hquote : Source.isQuote quote = true)
      (hescape : ∀ c, (letter, c) ∉ escapes) :
      Faulty config [quote, '\\', letter, quote] .unknownEscape
  | long {quote : Char} {body : List Char} (hquote : Source.isQuote quote = true)
      (hlong : 2 ≤ body.length) (hbody : ∀ letter, body ≠ ['\\', letter]) :
      Faulty config (quote :: (body ++ [quote])) .literalTooLong
  | number {token : List Char} (hshape : Unshaped token)
      (hvalue : ∀ value, Literal.number token ≠ .ok value) : Faulty config token .malformedNumber

variable {config : Config} {operand : Operand} {fault : Fault}

/-- What a token means where every kind is admitted. -/
def meaning (config : Config) (token : List Char) : Except Fault Operand :=
  match classify token with
  | .register => (registerIndex token config.registerCount).map .register
  | .memory => (memoryAddress token config.memorySize).map .memory
  | .immediate => (immediateValue token).map .immediate
  | .label => .ok (.label (String.ofList token))

theorem resolve_eq_meaning (token : String) (allowed : Kinds) (config : Config) :
    resolve token allowed config =
      if classify token.toList ∈ allowed then meaning config token.toList
      else .error (.notAllowed (classify token.toList) allowed) := by
  unfold resolve meaning
  cases hkind : classify token.toList <;>
    simp only [hkind, Kinds.admits, List.contains_iff_mem, String.ofList_toList]

section
variable {digits : List Char}

theorem registerIndex_of_decimal (letter : Char) (count : Nat) (h : Text.Decimal digits) :
    registerIndex (letter :: digits) count =
      if Text.decimalValue digits < count then .ok (Text.decimalValue digits)
      else .error (.registerOutOfRange count) := by
  unfold registerIndex
  rw [List.tail_cons, Text.numeral?_of_decimal h]

theorem memoryAddress_of_decimal (sign : Char) (size : Nat) (h : Text.Decimal digits) :
    memoryAddress (sign :: digits) size =
      if Text.decimalValue digits < size then .ok (Text.decimalValue digits)
      else .error (.memoryOutOfRange size) := by
  unfold memoryAddress
  rw [List.tail_cons, List.isEmpty_eq_false_iff.mpr h.1, Text.numeral?_of_decimal h]
  rfl

theorem meaning_register {letter : Char} (hletter : letter = 'r' ∨ letter = 'R')
    (h : Text.Decimal digits) :
    meaning config (letter :: digits) =
      (registerIndex (letter :: digits) config.registerCount).map .register := by
  have hshape : HasShape (letter :: digits) .register := .register ⟨letter, digits, rfl, hletter, h⟩
  rw [meaning, hshape.classify_eq]

theorem meaning_memory (rest : List Char) : meaning config ('@' :: rest) =
    (memoryAddress ('@' :: rest) config.memorySize).map .memory := by
  rw [meaning, (HasShape.memory rest).classify_eq]

theorem quoteShaped_between {quote : Char} (hquote : Source.isQuote quote = true)
    (body : List Char) : QuoteShaped (quote :: (body ++ [quote])) := by
  refine ⟨quote, hquote, rfl, ?_⟩
  rw [← List.cons_append, List.getLast?_concat]

theorem meaning_quoted (h : QuoteShaped token) :
    meaning config token = (Literal.charCode token).map .immediate := by
  rw [meaning, (HasShape.quoted h).classify_eq, immediateValue, if_pos (isQuoted_iff.mpr h)]

theorem charCode_of_long {quote : Char} (hquote : Source.isQuote quote = true)
    {body : List Char} (hlong : 2 ≤ body.length) (hbody : ∀ letter, body ≠ ['\\', letter]) :
    Literal.charCode (quote :: (body ++ [quote])) = .error .literalTooLong := by
  rw [Literal.charCode, body?_quoted hquote]
  split
  · rename_i h
    cases h
  · rename_i h
    cases h
    simp at hlong
  · rename_i h
    cases h
    simp at hlong
  · rename_i letter h
    exact absurd (Option.some.inj h) (hbody letter)
  · rfl

theorem charCode_of_escape {quote letter : Char} (hquote : Source.isQuote quote = true) :
    Literal.charCode [quote, '\\', letter, quote] =
      match Literal.escape? letter with
      | some c => .ok c.toNat
      | none => .error .unknownEscape := by
  have hbody : Literal.body? [quote, '\\', letter, quote] = some ['\\', letter] :=
    body?_quoted hquote ['\\', letter]
  rw [Literal.charCode, hbody]
  rfl

theorem meaning_number (h : Unshaped token) :
    meaning config token = (Literal.number token).map .immediate := by
  have hquoted := mt isQuoted_iff.mp h.quoted
  rw [meaning, (HasShape.number h).classify_eq, immediateValue, if_neg hquoted]

end

theorem Denotes.shape (h : Denotes config token operand) : HasShape token operand.kind := by
  cases h with
  | register hletter hdigits _ => exact .register ⟨_, _, rfl, hletter, hdigits⟩
  | memory _ _ => exact .memory _
  | label hname hregister => exact .label hname hregister
  | character hquote c => exact .quoted (quoteShaped_between hquote [c])
  | @escape quote letter c hquote _ => exact .quoted (quoteShaped_between hquote ['\\', letter])
  | number hshape _ => exact .number hshape

theorem Denotes.meaning_eq (h : Denotes config token operand) :
    meaning config token = .ok operand := by
  cases h with
  | register hletter hdigits hlt =>
    rw [meaning_register hletter hdigits, registerIndex_of_decimal _ _ hdigits, if_pos hlt]
    rfl
  | memory hdigits hlt =>
    rw [meaning_memory, memoryAddress_of_decimal _ _ hdigits, if_pos hlt]
    rfl
  | label hname hregister => rw [meaning, (HasShape.label hname hregister).classify_eq]
  | @character quote hquote c =>
    have hbody : Literal.body? [quote, c, quote] = some [c] := body?_quoted hquote [c]
    have hquoted : QuoteShaped [quote, c, quote] := quoteShaped_between hquote [c]
    rw [meaning_quoted hquoted, Literal.charCode, hbody]
    rfl
  | @escape quote letter c hquote hescape =>
    have hquoted : QuoteShaped [quote, '\\', letter, quote] :=
      quoteShaped_between hquote ['\\', letter]
    rw [meaning_quoted hquoted, charCode_of_escape hquote, escape?_eq_some_iff.mpr hescape]
    rfl
  | number hshape hvalue =>
    rw [meaning_number hshape, hvalue]
    rfl

theorem Faulty.meaning_eq (h : Faulty config token fault) :
    meaning config token = .error fault := by
  cases h with
  | register hletter hdigits hle =>
    rw [meaning_register hletter hdigits, registerIndex_of_decimal _ _ hdigits,
      if_neg (Nat.not_lt.mpr hle)]
    rfl
  | bareSign => rfl
  | @address rest hne hrest =>
    have hdecimal : ¬ Text.Decimal rest := fun h => hrest h.2
    rw [meaning_memory, memoryAddress, List.tail_cons, List.isEmpty_eq_false_iff.mpr hne,
      Text.numeral?_of_not_decimal hdecimal]
    rfl
  | memory hdigits hle =>
    rw [meaning_memory, memoryAddress_of_decimal _ _ hdigits, if_neg (Nat.not_lt.mpr hle)]
    rfl
  | @bareQuote quote hquote =>
    have hquoted : QuoteShaped [quote] := ⟨quote, hquote, rfl, rfl⟩
    rw [meaning_quoted hquoted, Literal.charCode, body?_bare hquote]
    rfl
  | @empty quote hquote =>
    have hbody : Literal.body? [quote, quote] = some [] := body?_quoted hquote []
    have hquoted : QuoteShaped [quote, quote] := quoteShaped_between hquote []
    rw [meaning_quoted hquoted, Literal.charCode, hbody]
    rfl
  | @escape quote letter hquote hescape =>
    have hquoted : QuoteShaped [quote, '\\', letter, quote] :=
      quoteShaped_between hquote ['\\', letter]
    have hnone : Literal.escape? letter = none := by
      rw [Option.eq_none_iff_forall_ne_some]
      intro c hc
      exact hescape c (escape?_eq_some_iff.mp hc)
    rw [meaning_quoted hquoted, charCode_of_escape hquote, hnone]
    rfl
  | @long quote body hquote hlong hbody =>
    rw [meaning_quoted (quoteShaped_between hquote body), charCode_of_long hquote hlong hbody]
    rfl
  | number hshape hvalue =>
    rw [meaning_number hshape]
    cases hnumber : Literal.number token with
    | ok value => exact absurd hnumber (hvalue value)
    | error fault =>
      rw [number_eq_error hnumber]
      rfl

/-- Every token between quotes either stands for a character or has a fault. -/
theorem denotes_or_faulty_quoted {quote : Char} (hquote : Source.isQuote quote = true)
    (config : Config) (body : List Char) :
    (∃ operand, Denotes config (quote :: (body ++ [quote])) operand) ∨
      ∃ fault, Faulty config (quote :: (body ++ [quote])) fault := by
  by_cases hescape : ∃ letter, body = ['\\', letter]
  · obtain ⟨letter, rfl⟩ := hescape
    by_cases hknown : ∃ c, (letter, c) ∈ escapes
    · obtain ⟨c, hc⟩ := hknown
      exact .inl ⟨_, .escape hquote hc⟩
    · exact .inr ⟨_, .escape hquote (not_exists.mp hknown)⟩
  · match body with
    | [] => exact .inr ⟨_, .empty hquote⟩
    | [c] => exact .inl ⟨_, .character hquote c⟩
    | first :: second :: rest =>
      have hlong : 2 ≤ (first :: second :: rest).length := by simp
      exact .inr ⟨_, .long hquote hlong (not_exists.mp hescape)⟩

theorem HasShape.denotes_or_faulty (h : HasShape token kind) (config : Config) :
    (∃ operand, Denotes config token operand) ∨ ∃ fault, Faulty config token fault := by
  cases h with
  | register h =>
    obtain ⟨letter, digits, rfl, hletter, hdigits⟩ := h
    by_cases hlt : Text.decimalValue digits < config.registerCount
    · exact .inl ⟨_, .register hletter hdigits hlt⟩
    · exact .inr ⟨_, .register hletter hdigits (Nat.le_of_not_lt hlt)⟩
  | memory rest =>
    by_cases hempty : rest = []
    · subst hempty
      exact .inr ⟨_, .bareSign⟩
    · by_cases hrest : ∀ c ∈ rest, c.isDigit = true
      · by_cases hlt : Text.decimalValue rest < config.memorySize
        · exact .inl ⟨_, .memory ⟨hempty, hrest⟩ hlt⟩
        · exact .inr ⟨_, .memory ⟨hempty, hrest⟩ (Nat.le_of_not_lt hlt)⟩
      · exact .inr ⟨_, .address hempty hrest⟩
  | quoted h =>
    obtain ⟨quote, hquote, rfl | ⟨body, rfl⟩⟩ := exists_body_of_isQuoted (isQuoted_iff.mpr h)
    · exact .inr ⟨_, .bareQuote hquote⟩
    · exact denotes_or_faulty_quoted hquote config body
  | label hname hregister => exact .inl ⟨_, .label hname hregister⟩
  | number hshape =>
    by_cases hvalue : ∃ value, Literal.number token = .ok value
    · obtain ⟨value, hvalue⟩ := hvalue
      exact .inl ⟨_, .number hshape hvalue⟩
    · exact .inr ⟨_, .number hshape (not_exists.mp hvalue)⟩

/-- As each rule is kept and no token is left over, the rules say all there is to say. -/
theorem meaning_eq_ok_iff : meaning config token = .ok operand ↔ Denotes config token operand := by
  constructor
  · intro h
    rcases (hasShape_classify token).denotes_or_faulty config with ⟨other, hother⟩ | ⟨fault, hfault⟩
    · cases h.symm.trans hother.meaning_eq
      exact hother
    · cases h.symm.trans hfault.meaning_eq
  · exact Denotes.meaning_eq

theorem meaning_eq_error_iff : meaning config token = .error fault ↔ Faulty config token fault := by
  constructor
  · intro h
    rcases (hasShape_classify token).denotes_or_faulty config with ⟨other, hother⟩ | ⟨found, hfound⟩
    · cases h.symm.trans hother.meaning_eq
    · cases h.symm.trans hfound.meaning_eq
      exact hfound
  · exact Faulty.meaning_eq

section
variable {token : String} {allowed : Kinds}

theorem HasShape.resolve_eq (h : HasShape token.toList kind) (allowed : Kinds) (config : Config) :
    resolve token allowed config =
      if kind ∈ allowed then meaning config token.toList
      else .error (.notAllowed kind allowed) := by
  rw [resolve_eq_meaning, h.classify_eq]

theorem resolve_eq_ok_iff_denotes : resolve token allowed config = .ok operand ↔
    operand.kind ∈ allowed ∧ Denotes config token.toList operand := by
  constructor
  · intro h
    rw [resolve_eq_meaning] at h
    by_cases hallowed : classify token.toList ∈ allowed
    · rw [if_pos hallowed, meaning_eq_ok_iff] at h
      rw [h.shape.classify_eq] at hallowed
      exact ⟨hallowed, h⟩
    · rw [if_neg hallowed] at h
      cases h
  · rintro ⟨hallowed, h⟩
    rw [h.shape.resolve_eq, if_pos hallowed, h.meaning_eq]

theorem resolve_eq_error_iff_faulty : resolve token allowed config = .error fault ↔
    ∃ kind, HasShape token.toList kind ∧
      ((kind ∉ allowed ∧ fault = .notAllowed kind allowed) ∨
        (kind ∈ allowed ∧ Faulty config token.toList fault)) := by
  constructor
  · intro h
    refine ⟨_, hasShape_classify token.toList, ?_⟩
    rw [resolve_eq_meaning] at h
    by_cases hallowed : classify token.toList ∈ allowed
    · rw [if_pos hallowed, meaning_eq_error_iff] at h
      exact .inr ⟨hallowed, h⟩
    · rw [if_neg hallowed] at h
      cases h
      exact .inl ⟨hallowed, rfl⟩
  · rintro ⟨kind, hkind, ⟨hrefused, rfl⟩ | ⟨hallowed, h⟩⟩
    · rw [hkind.resolve_eq, if_neg hrefused]
    · rw [hkind.resolve_eq, if_pos hallowed, h.meaning_eq]

end

/-- A token resolves to what it denotes where that kind is admitted. Otherwise the fault is that its
shape is not admitted, whatever it holds, or else what is wrong with a token of its shape. -/
theorem resolve_accepts_grammar (token : String) (allowed : Kinds) (config : Config) :
    (∀ operand, resolve token allowed config = .ok operand ↔
      operand.kind ∈ allowed ∧ Denotes config token.toList operand) ∧
    ∀ fault, resolve token allowed config = .error fault ↔
      ∃ kind, HasShape token.toList kind ∧
        ((kind ∉ allowed ∧ fault = .notAllowed kind allowed) ∨
          (kind ∈ allowed ∧ Faulty config token.toList fault)) :=
  ⟨fun _ => resolve_eq_ok_iff_denotes, fun _ => resolve_eq_error_iff_faulty⟩

/-- A quote between quotes, leading zeros, digits past 64 bits, and a bare sign where no memory is
admitted. -/
theorem resolve_accepts_corners :
    resolve "\'\'\'" [.immediate] {} = .ok (.immediate 39) ∧
    resolve "R0003" [.register, .label] {} = .ok (.register 3) ∧
    resolve "@18446744073709551616" [.memory] { memorySize := 18446744073709551615 } =
      .error (.memoryOutOfRange 18446744073709551615) ∧
    resolve "@" [.register] {} = .error (.notAllowed .memory [.register]) := by
  have hdigits : ∀ c ∈ "18446744073709551616".toList, c.isDigit = true :=
    List.all_eq_true.mp rfl
  refine ⟨?_, ?_, ?_, ?_⟩
  · exact ((resolve_accepts_grammar "\'\'\'" [.immediate] {}).1 _).mpr
      ⟨List.mem_singleton.mpr rfl, .character rfl '\''⟩
  · have hzeros : Text.Decimal ['0', '0', '0', '3'] := ⟨nofun, List.all_eq_true.mp rfl⟩
    exact ((resolve_accepts_grammar "R0003" [.register, .label] {}).1 _).mpr
      ⟨List.mem_cons_self, .register (.inr rfl) hzeros (by decide)⟩
  · exact ((resolve_accepts_grammar "@18446744073709551616" [.memory] _).2 _).mpr
      ⟨.memory, .memory _, .inr ⟨List.mem_singleton.mpr rfl, .memory ⟨nofun, hdigits⟩ (by decide)⟩⟩
  · exact ((resolve_accepts_grammar "@" [.register] {}).2 _).mpr
      ⟨.memory, .memory [], .inl ⟨by decide, rfl⟩⟩

end Operand

end RegisterMachine
