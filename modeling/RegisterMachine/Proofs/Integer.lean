import Mathlib.Data.List.Induction
import Mathlib.Data.Nat.Digits.Defs
import RegisterMachine.Proofs.Operand

/-!
Integer literals. Digits are the characters that numbers are printed with, their letters in either
case, and what they spell is counted place by place. A literal is read exactly when it is written by
the rules of its radix and its value fits in 64 bits, however many digits it has. So the printed
form of a number reads back.
-/

namespace RegisterMachine

namespace Text

variable {radix value n d : Nat} {text : List Char} {digits : List Nat} {c lower : Char}

/-- The text consists of digits of a radix, with these values from left to right. -/
structure Numeral (radix : Nat) (text : List Char) (digits : List Nat) : Prop where
  ne_nil : digits ≠ []
  lt_radix : ∀ d ∈ digits, d < radix
  written : text.map Char.toLower = digits.map Nat.digitChar

/-- The number that digits spell. The last one counts units. -/
def placeValue (radix : Nat) (digits : List Nat) : Nat :=
  Nat.ofDigits radix digits.reverse

theorem digitValue_digitChar (h : d < 16) : digitValue d.digitChar = d := by
  have hall : ∀ d < 16, digitValue (Nat.digitChar d) = d := by decide
  exact hall d h

theorem toNat_digitChar_of_letter (hten : 10 ≤ d) (h : d < 16) : d.digitChar.toNat = 87 + d := by
  have hall : ∀ d < 16, 10 ≤ d → (Nat.digitChar d).toNat = 87 + d := by decide
  exact hall d h hten

theorem digitChar_digitValue (h : digitValue c < 16) : (digitValue c).digitChar = c := by
  apply Char.toNat_inj.mp
  unfold digitValue at h ⊢
  by_cases hdigit : c.isDigit = true
  · have hbounds := Char.isDigit_iff_toNat.mp hdigit
    have hzero : '0'.toNat = 48 := rfl
    have hnine : '9'.toNat = 57 := rfl
    rw [if_pos hdigit, Nat.toNat_digitChar_of_lt_ten (by omega)]
    omega
  · rw [if_neg hdigit] at h ⊢
    by_cases hletter : (97 ≤ c.toNat && c.toNat ≤ 102) = true
    · have hbounds : 97 ≤ c.toNat ∧ c.toNat ≤ 102 := by simpa using hletter
      rw [if_pos hletter, toNat_digitChar_of_letter (by omega) (by omega)]
      omega
    · rw [if_neg hletter] at h
      omega

theorem numeralValue_map_digitChar (h : ∀ d ∈ digits, d < 16) :
    numeralValue radix (digits.map Nat.digitChar) = placeValue radix digits := by
  -- The value is built up digit by digit from the left, so the induction is from the right.
  induction digits using List.reverseRecOn with
  | nil => rfl
  | append_singleton digits d ih =>
    have hfront : ∀ d ∈ digits, d < 16 := by
      intro d hd
      exact h d (List.mem_append_left _ hd)
    have hd : d < 16 := h d (List.mem_append_right _ List.mem_cons_self)
    rw [numeralValue] at ih ⊢
    rw [List.map_append, List.foldl_append, ih hfront, placeValue, placeValue, List.reverse_append]
    rw [List.map_singleton, List.foldl_cons, List.foldl_nil, digitValue_digitChar hd,
      List.reverse_singleton, List.singleton_append, Nat.ofDigits_cons, Nat.mul_comm, Nat.add_comm]

theorem numeral?_map_digitChar (hradix : radix ≤ 16) (hne : digits ≠ [])
    (h : ∀ d ∈ digits, d < radix) :
    numeral? radix (digits.map Nat.digitChar) = some (placeValue radix digits) := by
  have hsixteen : ∀ d ∈ digits, d < 16 := by
    intro d hd
    exact Nat.lt_of_lt_of_le (h d hd) hradix
  have hall : (digits.map Nat.digitChar).all (isDigitOf radix) = true := by
    rw [List.all_map, List.all_eq_true]
    intro d hd
    apply decide_eq_true
    rw [digitValue_digitChar (hsixteen d hd)]
    exact h d hd
  have hempty : (digits.map Nat.digitChar).isEmpty = false := by
    rw [List.isEmpty_map, List.isEmpty_eq_false_iff]
    exact hne
  unfold numeral?
  rw [hempty, hall, numeralValue_map_digitChar hsixteen]
  rfl

theorem exists_digits_of_numeral? (hradix : radix ≤ 16) (h : numeral? radix text = some value) :
    ∃ digits, digits ≠ [] ∧ (∀ d ∈ digits, d < radix) ∧ text = digits.map Nat.digitChar := by
  unfold numeral? at h
  by_cases hrefused : (text.isEmpty || !text.all (isDigitOf radix)) = true
  · rw [if_pos hrefused] at h
    cases h
  · simp only [Bool.or_eq_true, List.isEmpty_iff, Bool.not_eq_true', not_or, Bool.not_eq_false,
      List.all_eq_true] at hrefused
    obtain ⟨hne, hall⟩ := hrefused
    have hdigit : ∀ c ∈ text, digitValue c < radix := by
      intro c hc
      exact of_decide_eq_true (hall c hc)
    refine ⟨text.map digitValue, ?_, ?_, ?_⟩
    · rw [ne_eq, List.map_eq_nil_iff]
      exact hne
    · intro d hd
      obtain ⟨c, hc, rfl⟩ := List.mem_map.mp hd
      exact hdigit c hc
    · have hsame : ∀ c ∈ text, (Nat.digitChar ∘ digitValue) c = c := by
        intro c hc
        exact digitChar_digitValue (Nat.lt_of_lt_of_le (hdigit c hc) hradix)
      rw [List.map_map, List.map_congr_left hsame, List.map_id']

theorem numeral?_map_toLower_iff (hradix : radix ≤ 16) :
    numeral? radix (text.map Char.toLower) = some value ↔
      ∃ digits, Numeral radix text digits ∧ placeValue radix digits = value := by
  constructor
  · intro h
    obtain ⟨digits, hne, hlt, htext⟩ := exists_digits_of_numeral? hradix h
    rw [htext, numeral?_map_digitChar hradix hne hlt] at h
    exact ⟨digits, ⟨hne, hlt, htext⟩, Option.some.inj h⟩
  · rintro ⟨digits, hdigits, rfl⟩
    rw [hdigits.written, numeral?_map_digitChar hradix hdigits.ne_nil hdigits.lt_radix]

/-- Only the letters from `A` to `Z` change when they are put in lower case. -/
theorem eq_of_toLower_eq (h : c.toLower = lower) :
    c = lower ∨ c.toNat + 32 = lower.toNat ∧ 97 ≤ lower.toNat ∧ lower.toNat ≤ 122 := by
  by_cases hupper : c.val ≥ 'A'.val ∧ c.val ≤ 'Z'.val
  · have hlow : 65 ≤ c.toNat := hupper.1
    have hhigh : c.toNat ≤ 90 := hupper.2
    have hvalue : c.toLower.toNat = (c.val + 32).toNat := congrArg Char.toNat (dif_pos hupper)
    rw [h, UInt32.toNat_add] at hvalue
    change lower.toNat = (c.toNat + 32) % 4294967296 at hvalue
    omega
  · have hsame : c.toLower = c := dif_neg hupper
    exact .inl (hsame.symm.trans h)

theorem eq_or_eq_of_toLower_eq {upper : Char} (h : c.toLower = lower)
    (hupper : upper.toNat + 32 = lower.toNat) : c = lower ∨ c = upper := by
  rcases eq_of_toLower_eq h with rfl | ⟨hc, _⟩
  · exact .inl rfl
  · right
    apply Char.toNat_inj.mp
    omega

theorem toLower_of_isDigit (h : c.isDigit = true) : c.toLower = c := by
  rcases eq_of_toLower_eq (rfl : c.toLower = c.toLower) with hsame | ⟨hc, hlow, _⟩
  · exact hsame.symm
  · have hbounds := Char.isDigit_iff_toNat.mp h
    have hnine : '9'.toNat = 57 := rfl
    omega

theorem exists_digits_toDigits (hradix : 1 < radix) (n : Nat) :
    ∃ digits, digits ≠ [] ∧ (∀ d ∈ digits, d < radix) ∧
      Nat.toDigits radix n = digits.map Nat.digitChar ∧ placeValue radix digits = n := by
  induction n using Nat.strongRecOn with
  | ind n ih =>
    by_cases hlt : n < radix
    · refine ⟨[n], List.cons_ne_nil n [], ?_, ?_, ?_⟩
      · intro d hd
        rw [List.mem_singleton.mp hd]
        exact hlt
      · rw [Nat.toDigits_of_lt_base hlt, List.map_singleton]
      · exact Nat.ofDigits_singleton
    · have hle : radix ≤ n := Nat.le_of_not_lt hlt
      have hsmaller : n / radix < n := Nat.div_lt_self (by omega) hradix
      obtain ⟨digits, hne, hdigits, htext, hvalue⟩ := ih (n / radix) hsmaller
      have hlast : n % radix < radix := Nat.mod_lt n (by omega)
      refine ⟨digits ++ [n % radix], ?_, ?_, ?_, ?_⟩
      · exact List.append_ne_nil_of_left_ne_nil hne _
      · intro d hd
        rcases List.mem_append.mp hd with hd | hd
        · exact hdigits d hd
        · rw [List.mem_singleton.mp hd]
          exact hlast
      · rw [Nat.toDigits_of_base_le hradix hle, htext, List.map_append, List.map_singleton]
      · rw [placeValue] at hvalue ⊢
        rw [List.reverse_append, List.reverse_singleton, List.singleton_append, Nat.ofDigits_cons,
          hvalue]
        exact Nat.mod_add_div n radix

theorem exists_numeral_toDigits {zeros : Nat} (hradix : 1 < radix)
    (htext : text.map Char.toLower = List.replicate zeros '0' ++ Nat.toDigits radix n) :
    ∃ digits, Numeral radix text digits ∧ placeValue radix digits = n := by
  obtain ⟨digits, hne, hdigits, hprinted, hvalue⟩ := exists_digits_toDigits hradix n
  refine ⟨List.replicate zeros 0 ++ digits, ⟨?_, ?_, ?_⟩, ?_⟩
  · exact List.append_ne_nil_of_right_ne_nil _ hne
  · intro d hd
    rcases List.mem_append.mp hd with hd | hd
    · rw [List.eq_of_mem_replicate hd]
      omega
    · exact hdigits d hd
  · rw [htext, hprinted, List.map_append, List.map_replicate]
    rfl
  · rw [placeValue, List.reverse_append, List.reverse_replicate,
      Nat.ofDigits_append_replicate_zero]
    exact hvalue

end Text

namespace Operand.Literal

open Text (Numeral placeValue)

variable {radix : Nat} {negative : Bool} {text token : List Char} {digits : List Nat} {value : Int}

/-- How a token can be cut into a sign, a radix and the text of its digits. -/
inductive Form : List Char → Bool → Nat → List Char → Prop where
  | plain (text : List Char) : Form text false 10 text
  | plus (text : List Char) : Form ('+' :: text) false 10 text
  | minus (text : List Char) : Form ('-' :: text) true 10 text
  | hexadecimal {mark : Char} (hmark : mark = 'x' ∨ mark = 'X') (text : List Char) :
      Form ('0' :: mark :: text) false 16 text
  | binary {mark : Char} (hmark : mark = 'b' ∨ mark = 'B') (text : List Char) :
      Form ('0' :: mark :: text) false 2 text

def withSign (negative : Bool) (magnitude : Nat) : Int :=
  if negative then -magnitude else magnitude

/-- The token is an integer literal of this value, which may be of any size. -/
def Writes (token : List Char) (value : Int) : Prop :=
  ∃ negative radix text digits, Form token negative radix text ∧ Numeral radix text digits ∧
    withSign negative (placeValue radix digits) = value

theorem fits_iff : fits value = true ↔ -2 ^ 63 ≤ value ∧ value < 2 ^ 63 := by
  simp only [fits, Bool.and_eq_true, decide_eq_true_eq]
  norm_num

theorem signed_of_some {digits : List Char} {magnitude : Nat}
    (h : Text.numeral? radix digits = some magnitude) :
    signed negative radix digits =
      if fits (withSign negative magnitude) then .ok (withSign negative magnitude)
      else .error .malformedNumber := by
  rw [signed, h]
  rfl

theorem signed_eq_ok_iff (hradix : radix ≤ 16) :
    signed negative radix (text.map Char.toLower) = .ok value ↔
      (∃ digits, Numeral radix text digits ∧ withSign negative (placeValue radix digits) = value) ∧
        fits value = true := by
  constructor
  · intro h
    cases hnumeral : Text.numeral? radix (text.map Char.toLower) with
    | none =>
      rw [signed, hnumeral] at h
      cases h
    | some magnitude =>
      rw [signed_of_some hnumeral] at h
      obtain ⟨digits, hdigits, rfl⟩ := (Text.numeral?_map_toLower_iff hradix).mp hnumeral
      by_cases hfits : fits (withSign negative (placeValue radix digits)) = true
      · rw [if_pos hfits] at h
        obtain rfl := Except.ok.inj h
        exact ⟨⟨digits, hdigits, rfl⟩, hfits⟩
      · rw [if_neg hfits] at h
        cases h
  · rintro ⟨⟨digits, hdigits, rfl⟩, hfits⟩
    have hnumeral := (Text.numeral?_map_toLower_iff hradix).mpr ⟨digits, hdigits, rfl⟩
    rw [signed_of_some hnumeral, if_pos hfits]

theorem Form.radix_le (h : Form token negative radix text) : radix ≤ 16 := by
  cases h <;> omega

/-- No decimal digit is a sign or the mark of a radix. -/
theorem number_plain (h : Numeral 10 text digits) :
    number text = signed false 10 (text.map Char.toLower) := by
  have hdigit : ∀ c ∈ text.map Char.toLower, c.isDigit = true := by
    rw [h.written]
    intro c hc
    obtain ⟨d, hd, rfl⟩ := List.mem_map.mp hc
    rw [Nat.isDigit_digitChar]
    exact decide_eq_true (h.lt_radix d hd)
  unfold number
  split
  · rename_i htext
    exact absurd (hdigit 'x' (by simp [htext])) (by decide)
  · rename_i htext
    exact absurd (hdigit 'b' (by simp [htext])) (by decide)
  · rename_i htext
    exact absurd (hdigit '-' (by simp [htext])) (by decide)
  · rename_i htext
    exact absurd (hdigit '+' (by simp [htext])) (by decide)
  · rfl

theorem Form.number_eq (h : Form token negative radix text) (hdigits : Numeral radix text digits) :
    number token = signed negative radix (text.map Char.toLower) := by
  cases h with
  | plain => exact number_plain hdigits
  | plus | minus => rfl
  | hexadecimal hmark | binary hmark => rcases hmark with rfl | rfl <;> rfl

theorem exists_of_map_toLower {c : Char} {rest : List Char} (hletter : c.toNat < 97)
    (h : token.map Char.toLower = c :: rest) :
    ∃ text, token = c :: text ∧ text.map Char.toLower = rest := by
  obtain ⟨first, text, rfl, hfirst, hrest⟩ := List.map_eq_cons_iff.mp h
  rcases Text.eq_of_toLower_eq hfirst with rfl | hupper
  · exact ⟨text, rfl, hrest⟩
  · omega

theorem exists_mark_of_map_toLower {lower : Char} {rest : List Char} (upper : Char)
    (hupper : upper.toNat + 32 = lower.toNat)
    (h : token.map Char.toLower = '0' :: lower :: rest) :
    ∃ mark text, token = '0' :: mark :: text ∧ (mark = lower ∨ mark = upper) ∧
      text.map Char.toLower = rest := by
  obtain ⟨tail, rfl, htail⟩ := exists_of_map_toLower (by decide) h
  obtain ⟨mark, text, rfl, hmark, htext⟩ := List.map_eq_cons_iff.mp htail
  exact ⟨mark, text, rfl, Text.eq_or_eq_of_toLower_eq hmark hupper, htext⟩

theorem exists_form (token : List Char) : ∃ negative radix text,
    Form token negative radix text ∧
      number token = signed negative radix (text.map Char.toLower) := by
  unfold number
  split
  · rename_i htoken
    obtain ⟨mark, text, rfl, hmark, rfl⟩ := exists_mark_of_map_toLower 'X' rfl htoken
    exact ⟨_, _, _, .hexadecimal hmark text, rfl⟩
  · rename_i htoken
    obtain ⟨mark, text, rfl, hmark, rfl⟩ := exists_mark_of_map_toLower 'B' rfl htoken
    exact ⟨_, _, _, .binary hmark text, rfl⟩
  · rename_i htoken
    obtain ⟨text, rfl, rfl⟩ := exists_of_map_toLower (by decide) htoken
    exact ⟨_, _, _, .minus text, rfl⟩
  · rename_i htoken
    obtain ⟨text, rfl, rfl⟩ := exists_of_map_toLower (by decide) htoken
    exact ⟨_, _, _, .plus text, rfl⟩
  · exact ⟨_, _, _, .plain token, rfl⟩

theorem number_eq_ok_iff : number token = .ok value ↔ Writes token value ∧ fits value = true := by
  constructor
  · intro h
    obtain ⟨negative, radix, text, hform, hnumber⟩ := exists_form token
    rw [hnumber, signed_eq_ok_iff hform.radix_le] at h
    obtain ⟨⟨digits, hdigits, hvalue⟩, hfits⟩ := h
    exact ⟨⟨negative, radix, text, digits, hform, hdigits, hvalue⟩, hfits⟩
  · rintro ⟨⟨negative, radix, text, digits, hform, hdigits, hvalue⟩, hfits⟩
    rw [hform.number_eq hdigits, signed_eq_ok_iff hform.radix_le]
    exact ⟨⟨digits, hdigits, hvalue⟩, hfits⟩

theorem exists_numeral_toString (n : Nat) :
    ∃ digits, Numeral 10 (toString n).toList digits ∧ placeValue 10 digits = n := by
  have hlower : ∀ c ∈ Nat.toDigits 10 n, c.toLower = c := by
    intro c hc
    exact Text.toLower_of_isDigit (Nat.isDigit_of_mem_toDigits (by decide) (by decide) hc)
  have htext : (toString n).toList.map Char.toLower =
      List.replicate 0 '0' ++ Nat.toDigits 10 n := by
    rw [Nat.toString_eq_ofList_toDigits, String.toList_ofList, List.map_congr_left hlower,
      List.map_id']
    rfl
  exact Text.exists_numeral_toDigits (by decide) htext

theorem writes_toString (value : Int) : Writes (toString value).toList value := by
  cases value with
  | ofNat n =>
    obtain ⟨digits, hdigits, hvalue⟩ := exists_numeral_toString n
    exact ⟨false, 10, _, digits, .plain _, hdigits, congrArg Int.ofNat hvalue⟩
  | negSucc n =>
    obtain ⟨digits, hdigits, hvalue⟩ := exists_numeral_toString (n + 1)
    have htext : (toString (Int.negSucc n)).toList = '-' :: (toString (n + 1)).toList := by
      have hprinted : toString (Int.negSucc n) = "-" ++ toString (n + 1) := rfl
      rw [hprinted, String.toList_append]
      rfl
    rw [htext]
    refine ⟨true, 10, _, digits, .minus _, hdigits, ?_⟩
    rw [hvalue]
    rfl

theorem writes_toDigits {lower : Char} {n zeros : Nat} (upper : Char)
    (hform : ∀ {mark : Char}, mark = lower ∨ mark = upper → ∀ text,
      Form ('0' :: mark :: text) false radix text)
    (hradix : 1 < radix) (hupper : upper.toNat + 32 = lower.toNat)
    (h : token.map Char.toLower =
      '0' :: lower :: (List.replicate zeros '0' ++ Nat.toDigits radix n)) : Writes token n := by
  obtain ⟨mark, text, rfl, hmark, htext⟩ := exists_mark_of_map_toLower upper hupper h
  obtain ⟨digits, hdigits, hvalue⟩ := Text.exists_numeral_toDigits hradix htext
  exact ⟨false, radix, text, digits, hform hmark text, hdigits, congrArg Int.ofNat hvalue⟩

@[simp] theorem fits_toInt (value : Int64) : fits value.toInt = true :=
  fits_iff.mpr ⟨value.le_toInt, value.toInt_lt⟩

/-- A token is read exactly when it writes an integer that fits in 64 bits, and gives this integer.
The decimal form of every such integer is read, and so is the hexadecimal and the binary form of one
that is not negative, with zeros in front and with letters of either case. -/
theorem number_reads_integers :
    (∀ token value, number token = .ok value ↔
      Writes token value ∧ -2 ^ 63 ≤ value ∧ value < 2 ^ 63) ∧
    (∀ token, number token = .error .malformedNumber ↔
      ∀ value, Writes token value → ¬ (-2 ^ 63 ≤ value ∧ value < 2 ^ 63)) ∧
    (∀ value : Int64, number (toString value.toInt).toList = .ok value.toInt) ∧
    ∀ (value : Int64) (zeros : Nat) (token : List Char), 0 ≤ value.toInt →
      (token.map Char.toLower =
          '0' :: 'x' :: (List.replicate zeros '0' ++ Nat.toDigits 16 value.toInt.toNat) ∨
        token.map Char.toLower =
          '0' :: 'b' :: (List.replicate zeros '0' ++ Nat.toDigits 2 value.toInt.toNat)) →
      number token = .ok value.toInt := by
  refine ⟨?_, ?_, ?_, ?_⟩
  · intro token value
    rw [number_eq_ok_iff, fits_iff]
  · intro token
    constructor
    · intro h value hwrites hfits
      have hok := number_eq_ok_iff.mpr ⟨hwrites, fits_iff.mpr hfits⟩
      cases h.symm.trans hok
    · intro h
      cases hnumber : number token with
      | ok value =>
        obtain ⟨hwrites, hfits⟩ := number_eq_ok_iff.mp hnumber
        exact absurd (fits_iff.mp hfits) (h value hwrites)
      | error fault => rw [number_eq_error hnumber]
  · intro value
    exact number_eq_ok_iff.mpr ⟨writes_toString value.toInt, fits_toInt value⟩
  · intro value zeros token hvalue htoken
    have hwrites : Writes token value.toInt.toNat := by
      rcases htoken with htoken | htoken
      · exact writes_toDigits 'X' .hexadecimal (by decide) rfl htoken
      · exact writes_toDigits 'B' .binary (by decide) rfl htoken
    rw [Int.toNat_of_nonneg hvalue] at hwrites
    exact number_eq_ok_iff.mpr ⟨hwrites, fits_toInt value⟩

/-- The least integer, the greatest one with zeros and capital letters, and the one after it. -/
theorem number_reads_extremes :
    number "-9223372036854775808".toList = .ok (-9223372036854775808) ∧
    number "0X007FFFFFFFFFFFFFFF".toList = .ok 9223372036854775807 ∧
    ∀ value, Writes "0x8000000000000000".toList value → ¬ (-2 ^ 63 ≤ value ∧ value < 2 ^ 63) := by
  obtain ⟨_, hrefused, hdecimal, hmarked⟩ := number_reads_integers
  have hbeyond : number "0x8000000000000000".toList = .error .malformedNumber := by
    decide +kernel
  refine ⟨hdecimal Int64.minValue, ?_, (hrefused _).mp hbeyond⟩
  apply hmarked Int64.maxValue 2 "0X007FFFFFFFFFFFFFFF".toList (by decide)
  left
  rfl

end Operand.Literal

end RegisterMachine
