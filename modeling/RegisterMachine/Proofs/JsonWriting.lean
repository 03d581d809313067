import RegisterMachine.Json.Basic
import RegisterMachine.Proofs.JsonDocument
import RegisterMachine.Report.Collector

/-!
What the written form of a JSON value keeps. The form of a value is a text of the grammar, so it can
be read again, and the tree that is read determines the value: escapes are undone one by one, and a
number is printed in one way only. Reports and lists of reports can therefore be told apart by their
JSON texts.
-/

namespace RegisterMachine.Json

section
variable {c : Char} {written body text : List Char}

/-- How a character may stand in the body of a string. -/
inductive Escapes : Char → List Char → Prop where
  | plain {c : Char} : 0x20 ≤ c.toNat → c ≠ '"' → c ≠ '\\' → Escapes c [c]
  | letter {c letter : Char} : Token.isEscape letter = true → unescape? letter = some c →
      Escapes c ['\\', letter]
  | code {c d₁ d₂ d₃ d₄ : Char} : [d₁, d₂, d₃, d₄].all Token.isHexDigit = true →
      hexValue d₁ d₂ d₃ d₄ = c.toNat → c.toNat < 0xD800 →
      Escapes c ['\\', 'u', d₁, d₂, d₃, d₄]

/-- The hexadecimal digits of a control character, filled up to four. -/
theorem exists_controlDigits {n : Nat} (h : n < 0x20) :
    ∃ d₁ d₂, (if n < 0x10 then '0' :: Text.hexadecimal n else Text.hexadecimal n) = [d₁, d₂] ∧
      ['0', '0', d₁, d₂].all Token.isHexDigit = true ∧ hexValue '0' '0' d₁ d₂ = n := by
  have hall : ∀ n < 0x20,
      (if n < 0x10 then '0' :: Text.hexadecimal n else Text.hexadecimal n) =
        [(n / 16).digitChar, (n % 16).digitChar] ∧
      ['0', '0', (n / 16).digitChar, (n % 16).digitChar].all Token.isHexDigit = true ∧
      hexValue '0' '0' (n / 16).digitChar (n % 16).digitChar = n := by
    decide
  exact ⟨_, _, hall n h⟩

theorem escapes_escapedChar (c : Char) : Escapes c (escapedChar c) := by
  unfold escapedChar
  split
  -- The seven characters in front have a letter of their own.
  case h_8 _ hquote hslash _ _ _ _ _ =>
    by_cases hcontrol : c.toNat < 0x20
    · obtain ⟨d₁, d₂, htext, hdigits, hvalue⟩ := exists_controlDigits hcontrol
      have hcode : Escapes c ['\\', 'u', '0', '0', d₁, d₂] := .code hdigits hvalue (by omega)
      by_cases hsmall : c.toNat < 0x10
      · rw [if_pos hsmall] at htext
        rw [if_pos hsmall]
        change Escapes c (['\\', 'u', '0', '0'] ++ '0' :: Text.hexadecimal c.toNat)
        rw [htext]
        exact hcode
      · rw [if_neg hsmall] at htext
        rw [if_neg hsmall, if_pos hcontrol, htext]
        exact hcode
    · rw [if_neg (by omega), if_neg hcontrol]
      exact .plain (Nat.le_of_not_lt hcontrol) hquote hslash
  all_goals exact .letter rfl rfl

theorem Escapes.stringBody_append (h : Escapes c written) (hbody : StringBody body) :
    StringBody (written ++ body) := by
  cases h with
  | plain hprintable hquote hslash => exact .plain hprintable hquote hslash hbody
  | letter hletter _ => exact .escape hletter hbody
  | code hdigits _ _ => exact .code hdigits hbody

theorem decodeString?_letter {letter : Char} (h : unescape? letter = some c) :
    decodeString? ('\\' :: letter :: text) = (decodeString? text).map (c :: ·) := by
  rw [decodeString?.eq_def]
  split <;> rename_i heq <;> cases heq
  · cases h
  · simp only [h]
  · rename_i hother
    exact (hother letter text rfl rfl).elim

theorem decodeString?_code {d₁ d₂ d₃ d₄ : Char} (hvalue : hexValue d₁ d₂ d₃ d₄ = c.toNat)
    (hlt : c.toNat < 0xD800) :
    decodeString? ('\\' :: 'u' :: d₁ :: d₂ :: d₃ :: d₄ :: text) =
      (decodeString? text).map (c :: ·) := by
  have hlow : isLowSurrogate c.toNat = false := by
    simp only [isLowSurrogate, Bool.and_eq_false_iff, decide_eq_false_iff_not]
    omega
  have hhigh : isHighSurrogate c.toNat = false := by
    simp only [isHighSurrogate, Bool.and_eq_false_iff, decide_eq_false_iff_not]
    omega
  rw [decodeString?.eq_def]
  simp only [hvalue, hlow, hhigh, Bool.false_eq_true, if_false, Char.ofNat_toNat]

theorem Escapes.decodeString?_append (h : Escapes c written) (text : List Char) :
    decodeString? (written ++ text) = (decodeString? text).map (c :: ·) := by
  cases h with
  | plain _ _ hslash =>
    rw [List.singleton_append, decodeString?.eq_def]
    split <;> rename_i heq <;> cases heq
    · exact absurd rfl hslash
    · exact absurd rfl hslash
    · rfl
  | letter _ hvalue => exact decodeString?_letter hvalue
  | code _ hvalue hlt => exact decodeString?_code hvalue hlt

theorem stringBody_escaped (text : List Char) : StringBody (text.flatMap escapedChar) := by
  induction text with
  | nil => exact .nil
  | cons c text ih =>
    rw [List.flatMap_cons]
    exact (escapes_escapedChar c).stringBody_append ih

/-- Escaping loses nothing. -/
@[simp] theorem decodeString?_escaped (text : List Char) :
    decodeString? (text.flatMap escapedChar) = some text := by
  induction text with
  | nil => rfl
  | cons c text ih =>
    rw [List.flatMap_cons, (escapes_escapedChar c).decodeString?_append, ih, Option.map_some]

end

def escaped (text : String) : List Char :=
  text.toList.flatMap escapedChar

theorem escaped_injective {first second : String} (h : escaped first = escaped second) :
    first = second := by
  have hfirst := decodeString?_escaped first.toList
  rw [← escaped, h, escaped, decodeString?_escaped] at hfirst
  exact String.toList_inj.mp (Option.some.inj hfirst).symm

def numberText (value : Int) : List Char :=
  (toString value).toList

@[simp] theorem numberText_ofNat (n : Nat) : numberText n = Nat.toDigits 10 n := by
  change (toString n).toList = _
  rw [Nat.toString_eq_ofList_toDigits, String.toList_ofList]

@[simp] theorem numberText_negSucc (n : Nat) :
    numberText (Int.negSucc n) = '-' :: Nat.toDigits 10 (n + 1) := by
  have hprinted : toString (Int.negSucc n) = "-" ++ toString (n + 1) := rfl
  have hdigits : (toString (n + 1)).toList = Nat.toDigits 10 (n + 1) := numberText_ofNat (n + 1)
  rw [numberText, hprinted, String.toList_append, hdigits]
  rfl

theorem head?_toDigits {n : Nat} (hpos : 0 < n) : (Nat.toDigits 10 n).head? ≠ some '0' := by
  induction n using Nat.strongRecOn with
  | ind n ih =>
    by_cases hlt : n < 10
    · have hall : ∀ n < 10, 0 < n → (Nat.digitChar n) ≠ '0' := by decide
      rw [Nat.toDigits_of_lt_base hlt]
      intro hhead
      exact hall n hlt hpos (Option.some.inj hhead)
    · have hle : 10 ≤ n := Nat.le_of_not_lt hlt
      have hshorter := ih (n / 10) (Nat.div_lt_self hpos (by decide)) (Nat.div_pos hle (by decide))
      rw [Nat.toDigits_of_base_le (by decide) hle, List.head?_append]
      cases hhead : (Nat.toDigits 10 (n / 10)).head? with
      | none => exact absurd (List.head?_eq_none_iff.mp hhead) Nat.toDigits_ne_nil
      | some first =>
        rw [hhead] at hshorter
        exact hshorter

/-- Numbers are printed without leading zeros. -/
theorem wholePart_toDigits (n : Nat) : WholePart (Nat.toDigits 10 n) := by
  cases n with
  | zero => exact .zero
  | succ n =>
    have hdigits : Digits (Nat.toDigits 10 (n + 1)) :=
      ⟨Nat.toDigits_ne_nil, fun _ => Nat.isDigit_of_mem_toDigits (by decide) (by decide)⟩
    exact .digits hdigits (head?_toDigits (Nat.succ_pos n))

theorem isNumber_numberText (value : Int) : NumberText (numberText value) := by
  have hparts : ∀ sign, sign = [] ∨ sign = ['-'] → ∀ n,
      NumberText (sign ++ Nat.toDigits 10 n) := by
    intro sign hsign n
    have hnumber := NumberText.parts hsign (wholePart_toDigits n) .absent .absent
    rwa [List.append_nil, List.append_nil] at hnumber
  cases value with
  | ofNat n =>
    rw [Int.ofNat_eq_natCast, numberText_ofNat]
    exact hparts [] (.inl rfl) n
  | negSucc n =>
    rw [numberText_negSucc]
    exact hparts ['-'] (.inr rfl) (n + 1)

theorem toDigits_injective {m n : Nat} (h : Nat.toDigits 10 m = Nat.toDigits 10 n) : m = n := by
  rw [← Nat.ofDigitChars_ten_toDigits (n := m), h, Nat.ofDigitChars_ten_toDigits]

theorem toDigits_ne_minus {m n : Nat} : Nat.toDigits 10 m ≠ '-' :: Nat.toDigits 10 n := by
  intro h
  have hminus : '-' ∈ Nat.toDigits 10 m := by
    rw [h]
    exact List.mem_cons_self
  cases Nat.isDigit_of_mem_toDigits (by decide) (by decide) hminus

theorem numberText_injective {first second : Int} (h : numberText first = numberText second) :
    first = second := by
  cases first with
  | ofNat m =>
    cases second with
    | ofNat n =>
      simp only [Int.ofNat_eq_natCast, numberText_ofNat] at h
      rw [toDigits_injective h]
    | negSucc n =>
      rw [Int.ofNat_eq_natCast, numberText_ofNat, numberText_negSucc] at h
      exact absurd h toDigits_ne_minus
  | negSucc m =>
    cases second with
    | ofNat n =>
      rw [Int.ofNat_eq_natCast, numberText_ofNat, numberText_negSucc] at h
      exact absurd h.symm toDigits_ne_minus
    | negSucc n =>
      rw [numberText_negSucc, numberText_negSucc] at h
      have hsucc : m + 1 = n + 1 := toDigits_injective (List.cons.inj h).2
      rw [Nat.succ.inj hsucc]

mutual

def document : Json → Document
  | null => .null
  | bool value => .bool value
  | number value => .number (numberText value)
  | string text => .string (escaped text)
  | array items => .array (itemDocuments items)
  | object members => .object (memberDocuments members)

def itemDocuments : List Json → List Document
  | [] => []
  | item :: items => item.document :: itemDocuments items

def memberDocuments : List (String × Json) → List (List Char × Document)
  | [] => []
  | (key, value) :: members => (escaped key, value.document) :: memberDocuments members

end

theorem spaces_newline (depth : Nat) : Spaces (newline depth) := by
  intro c hc
  rcases List.mem_cons.mp hc with rfl | hc
  · rfl
  · rw [List.eq_of_mem_replicate hc]
    rfl

/-- A property of all values, from the items and members to the array or object of them. -/
@[elab_as_elim] theorem induction {P : Json → Prop} (null : P null) (bool : ∀ value, P (bool value))
    (number : ∀ value, P (number value)) (string : ∀ text, P (string text))
    (array : ∀ items, (∀ item ∈ items, P item) → P (array items))
    (object : ∀ members, (∀ member ∈ members, P member.2) → P (object members)) (value : Json) :
    P value := by
  exact @Json.rec P (fun items => ∀ item ∈ items, P item)
    (fun members => ∀ member ∈ members, P member.2) (fun member => P member.2)
    null bool number string array object nofun
    (fun _ _ hitem hitems => List.forall_mem_cons.mpr ⟨hitem, hitems⟩) nofun
    (fun _ _ hmember hmembers => List.forall_mem_cons.mpr ⟨hmember, hmembers⟩)
    (fun _ _ hvalue => hvalue) value

theorem written_items (depth : Nat) {item : Json} {items : List Json} {after : List Char}
    (h : ∀ value ∈ item :: items, ∀ depth,
      (Phrase.value value.document).Written (write depth value))
    (hafter : Spaces after) : (Phrase.items item.document (itemDocuments items)).Written
      (newline depth ++ (write depth item ++ (writeItems depth items ++ after))) := by
  have hitem := h item List.mem_cons_self depth
  induction items generalizing item with
  | nil => exact .lastItem (.element (spaces_newline depth) hitem hafter)
  | cons next items ih =>
    have hrest : ∀ value ∈ next :: items, ∀ depth,
        (Phrase.value value.document).Written (write depth value) :=
      fun value hvalue => h value (List.mem_cons_of_mem item hvalue)
    have hitems := ih hrest (hrest next List.mem_cons_self depth)
    have helement := Phrase.Written.element (spaces_newline depth) hitem spaces_nil
    have hmore := Phrase.Written.items helement hitems
    simpa only [writeItems, itemDocuments, List.append_assoc, List.cons_append, List.nil_append]
      using hmore

theorem written_members (depth : Nat) {key : String} {value : Json}
    {members : List (String × Json)} {after : List Char}
    (h : ∀ member ∈ (key, value) :: members, ∀ depth,
      (Phrase.value member.2.document).Written (write depth member.2))
    (hafter : Spaces after) :
    (Phrase.members (escaped key) value.document (memberDocuments members)).Written
      (newline depth ++ (writeString key ++ (": ".toList ++ (write depth value ++
        (writeMembers depth members ++ after))))) := by
  have hvalue := h (key, value) List.mem_cons_self depth
  have hcolon : ": ".toList = [':', ' '] := rfl
  induction members generalizing key value with
  | nil =>
    have hlast := Phrase.Written.lastMember (spaces_newline depth) (stringBody_escaped key.toList)
      spaces_nil (.element spaces_blank hvalue hafter)
    simpa only [writeMembers, memberDocuments, writeString, escaped, hcolon, List.append_assoc,
      List.cons_append, List.nil_append] using hlast
  | cons next members ih =>
    have hrest : ∀ member ∈ next :: members, ∀ depth,
        (Phrase.value member.2.document).Written (write depth member.2) :=
      fun member hmember => h member (List.mem_cons_of_mem _ hmember)
    have hmembers := ih hrest (hrest next List.mem_cons_self depth)
    have hmore := Phrase.Written.members (spaces_newline depth) (stringBody_escaped key.toList)
      spaces_nil (.element spaces_blank hvalue spaces_nil) hmembers
    simpa only [writeMembers, memberDocuments, writeString, escaped, hcolon, List.append_assoc,
      List.cons_append, List.nil_append] using hmore

/-- The written form of a value is a text of its tree. -/
theorem written_value (depth : Nat) (value : Json) :
    (Phrase.value value.document).Written (write depth value) := by
  induction value using induction generalizing depth with
  | null => exact .null
  | bool value =>
    cases value with
    | true => exact .true
    | false => exact .false
  | number value => exact .number (isNumber_numberText value)
  | string text => exact .string (stringBody_escaped text.toList)
  | array items ih =>
    cases items with
    | nil => exact .emptyArray spaces_nil
    | cons item items =>
      have harray := Phrase.Written.array (written_items (depth + 1) ih (spaces_newline depth))
      simpa only [write, document, itemDocuments, List.append_assoc, List.cons_append,
        List.nil_append] using harray
  | object members ih =>
    cases members with
    | nil => exact .emptyObject spaces_nil
    | cons member members =>
      have hobject := Phrase.Written.object (written_members (depth + 1) ih (spaces_newline depth))
      simpa only [write, document, memberDocuments, List.append_assoc, List.cons_append,
        List.nil_append] using hobject

@[simp] theorem ofText?_pretty (value : Json) :
    Document.ofText? value.pretty.toList = some value.document := by
  have hwritten := Phrase.Written.element spaces_nil (written_value 0 value) spaces_nil
  rw [List.nil_append, List.append_nil] at hwritten
  rw [pretty, String.toList_ofList]
  exact Document.Written.ofText?_eq hwritten

theorem itemDocuments_injective {items others : List Json}
    (h : ∀ item ∈ items, ∀ other, item.document = other.document → item = other)
    (heq : itemDocuments items = itemDocuments others) : items = others := by
  induction items generalizing others with
  | nil =>
    cases others with
    | nil => rfl
    | cons other others => cases heq
  | cons item items ih =>
    cases others with
    | nil => cases heq
    | cons other others =>
      obtain ⟨hfirst, hrest⟩ := List.cons.inj heq
      rw [h item List.mem_cons_self other hfirst,
        ih (fun value hvalue => h value (List.mem_cons_of_mem item hvalue)) hrest]

theorem memberDocuments_injective {members others : List (String × Json)}
    (h : ∀ member ∈ members, ∀ other, member.2.document = other.document → member.2 = other)
    (heq : memberDocuments members = memberDocuments others) : members = others := by
  induction members generalizing others with
  | nil =>
    cases others with
    | nil => rfl
    | cons other others => cases heq
  | cons member members ih =>
    cases others with
    | nil => cases heq
    | cons other others =>
      obtain ⟨hfirst, hrest⟩ := List.cons.inj heq
      obtain ⟨hkey, hvalue⟩ := Prod.mk.inj hfirst
      have hmember : member = other :=
        Prod.ext (escaped_injective hkey) (h member List.mem_cons_self other.2 hvalue)
      rw [hmember, ih (fun value hvalue => h value (List.mem_cons_of_mem member hvalue)) hrest]

/-- The tree of its written form determines a value. -/
theorem document_injective {first second : Json} (h : first.document = second.document) :
    first = second := by
  induction first using induction generalizing second with
  | null => cases second <;> first | rfl | cases h
  | bool value => cases second <;> cases h; rfl
  | number value =>
    cases second with
    | number other => rw [numberText_injective (Document.number.inj h)]
    | _ => cases h
  | string text =>
    cases second with
    | string other => rw [escaped_injective (Document.string.inj h)]
    | _ => cases h
  | array items ih =>
    cases second with
    | array others =>
      rw [itemDocuments_injective (fun item hitem _ => ih item hitem) (Document.array.inj h)]
    | _ => cases h
  | object members ih =>
    cases second with
    | object others =>
      rw [memberDocuments_injective (fun member hmember _ => ih member hmember)
        (Document.object.inj h)]
    | _ => cases h

@[simp] theorem pretty_inj {first second : Json} :
    first.pretty = second.pretty ↔ first = second := by
  constructor
  · intro h
    have hread := ofText?_pretty first
    rw [h, ofText?_pretty] at hread
    exact document_injective (Option.some.inj hread).symm
  · rintro rfl
    rfl

/-- What is left out is told apart from every value that is not null. -/
theorem optional_injective {α : Type} {write : α → Json} {first second : Option α}
    (hwrite : ∀ a b, write a = write b → a = b) (hnull : ∀ a, write a ≠ null)
    (h : optional write first = optional write second) : first = second := by
  cases first with
  | none =>
    cases second with
    | none => rfl
    | some b => exact absurd h.symm (hnull b)
  | some a =>
    cases second with
    | none => exact absurd h (hnull a)
    | some b => rw [hwrite a b h]

end RegisterMachine.Json

namespace RegisterMachine

theorem Severity.name_injective {first second : Severity} (h : first.name = second.name) :
    first = second := by
  revert h
  cases first <;> cases second <;> decide

namespace Report

theorem locationJson_injective (first second : Location)
    (h : locationJson first = locationJson second) : first = second := by
  simp only [locationJson, Json.object.injEq, List.cons.injEq, Prod.mk.injEq, Json.string.injEq,
    Json.number.injEq, Int.natCast_inj, true_and, and_true] at h
  obtain ⟨hfile, hline, hcolumn⟩ := h
  cases first
  cases second
  simp_all only

theorem toJson_injective {first second : Report} (h : first.toJson = second.toJson) :
    first = second := by
  simp only [toJson, Json.object.injEq, List.cons.injEq, Prod.mk.injEq, Json.string.injEq,
    true_and, and_true] at h
  obtain ⟨hmessage, hseverity, hlocation, hcode, htoken, hsuggestion⟩ := h
  have htext : ∀ first second : Option String,
      Json.optional .string first = Json.optional .string second → first = second :=
    fun _ _ => Json.optional_injective (fun _ _ => Json.string.inj) (fun _ => Json.noConfusion)
  have hnumber : ∀ m n : Nat, Json.number m = Json.number n → m = n :=
    fun _ _ hnumbers => Int.natCast_inj.mp (Json.number.inj hnumbers)
  have hlocations := Json.optional_injective locationJson_injective (fun _ => Json.noConfusion)
    hlocation
  have hcodes := Json.optional_injective hnumber (fun _ => Json.noConfusion) hcode
  have hseverities := Severity.name_injective hseverity
  have htokens := htext _ _ htoken
  have hsuggestions := htext _ _ hsuggestion
  cases first
  cases second
  simp_all only

/-- The JSON text of a report determines the report, and that of a collection the reports in it,
however the texts inside them look. -/
theorem json_text_determines :
    (∀ first second : Report, first.toJson.pretty = second.toJson.pretty ↔ first = second) ∧
    ∀ first second : List Report,
      (Collector.mk first).toJson.pretty = (Collector.mk second).toJson.pretty ↔
        first = second := by
  constructor
  · intro first second
    rw [Json.pretty_inj]
    exact ⟨toJson_injective, congrArg toJson⟩
  · intro first second
    rw [Json.pretty_inj, Collector.toJson, Collector.toJson, Json.array.injEq]
    exact List.map_inj_right fun _ _ => toJson_injective

end Report

end RegisterMachine
