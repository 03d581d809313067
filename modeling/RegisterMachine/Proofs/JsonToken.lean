import RegisterMachine.Json.Token

/-!
How the tokens of a JSON text are found. Numbers and the bodies of strings are given by their
grammar. A token of the grammar is scanned as a whole, provided that what stands behind a number
cannot continue it, and white space between tokens leaves no trace.
-/

namespace RegisterMachine.Json

structure Digits (text : List Char) : Prop where
  ne_nil : text ≠ []
  isDigit : ∀ c ∈ text, c.isDigit = true

/-- The whole part of a number has no leading zeros. -/
inductive WholePart : List Char → Prop where
  | zero : WholePart ['0']
  | digits {text : List Char} : Digits text → text.head? ≠ some '0' → WholePart text

inductive FractionPart : List Char → Prop where
  | absent : FractionPart []
  | digits {text : List Char} : Digits text → FractionPart ('.' :: text)

inductive ExponentPart : List Char → Prop where
  | absent : ExponentPart []
  | digits {mark : Char} {sign text : List Char} : mark = 'e' ∨ mark = 'E' →
      sign = [] ∨ sign = ['+'] ∨ sign = ['-'] → Digits text → ExponentPart (mark :: (sign ++ text))

inductive NumberText : List Char → Prop where
  | parts {sign whole fraction exponent : List Char} : sign = [] ∨ sign = ['-'] →
      WholePart whole → FractionPart fraction → ExponentPart exponent →
      NumberText (sign ++ (whole ++ fraction ++ exponent))

/-- What may stand between the quotes of a string. -/
inductive StringBody : List Char → Prop where
  | nil : StringBody []
  | plain {c : Char} {body : List Char} : 0x20 ≤ c.toNat → c ≠ '"' → c ≠ '\\' →
      StringBody body → StringBody (c :: body)
  | escape {c : Char} {body : List Char} : Token.isEscape c = true → StringBody body →
      StringBody ('\\' :: c :: body)
  | code {a b c d : Char} {body : List Char} : [a, b, c, d].all Token.isHexDigit = true →
      StringBody body → StringBody ('\\' :: 'u' :: a :: b :: c :: d :: body)

def Spaces (text : List Char) : Prop :=
  ∀ c ∈ text, Token.isSpace c = true

/-- What may stand behind a value: white space, a comma or the end of an array or object. -/
def Follows (rest : List Char) : Prop :=
  ∀ c, rest.head? = some c →
    Token.isSpace c = true ∨ c = ',' ∨ c = ']' ∨ c = '\x7d'

section
variable {text rest : List Char} {c : Char}

theorem Digits.exists_first (h : Digits text) : ∃ c more, text = c :: more ∧ c.isDigit = true := by
  cases text with
  | nil => exact absurd rfl h.ne_nil
  | cons c more => exact ⟨c, more, rfl, h.isDigit c List.mem_cons_self⟩

theorem WholePart.exists_first (h : WholePart text) :
    ∃ c more, text = c :: more ∧ c.isDigit = true := by
  cases h with
  | zero => exact ⟨'0', [], rfl, rfl⟩
  | digits hdigits _ => exact hdigits.exists_first

theorem NumberText.exists_first (h : NumberText text) :
    ∃ c more, text = c :: more ∧ (c = '-' ∨ c.isDigit = true) := by
  obtain ⟨hsign, hwhole, _, _⟩ := h
  obtain ⟨c, more, rfl, hc⟩ := hwhole.exists_first
  rcases hsign with rfl | rfl
  · exact ⟨c, _, rfl, .inr hc⟩
  · exact ⟨'-', _, rfl, .inl rfl⟩

theorem follows_nil : Follows [] := nofun

theorem follows_cons (h : Token.isSpace c = true ∨ c = ',' ∨ c = ']' ∨ c = '\x7d') :
    Follows (c :: rest) := by
  intro first hfirst
  cases hfirst
  exact h

theorem spaces_nil : Spaces [] := nofun

theorem spaces_blank : Spaces [' '] := by
  intro c hc
  rw [List.mem_singleton.mp hc]
  rfl

theorem Spaces.follows_append {spaces : List Char} (h : Spaces spaces) (hrest : Follows rest) :
    Follows (spaces ++ rest) := by
  cases spaces with
  | nil => exact hrest
  | cons c spaces => exact follows_cons (.inl (h c List.mem_cons_self))

theorem isSpace_eq_true_iff :
    Token.isSpace c = true ↔ c = ' ' ∨ c = '\n' ∨ c = '\t' ∨ c = '\r' := by
  simp [Token.isSpace, or_assoc]

/-- No character behind a value continues a number. -/
theorem Follows.stops (h : Follows rest) : ∀ c, rest.head? = some c →
    c.isDigit = false ∧ c ≠ '.' ∧ c ≠ 'e' ∧ c ≠ 'E' := by
  intro c hc
  rcases h c hc with hspace | rfl | rfl | rfl
  · rcases isSpace_eq_true_iff.mp hspace with rfl | rfl | rfl | rfl <;> decide
  all_goals decide

end

namespace Token

variable {text rest body : List Char} {c : Char} {token : Token} {tokens : List Token}

def Breaks (rest : List Char) : Prop :=
  ∀ c, rest.head? = some c → c.isDigit = false

theorem scanDigits_append (h : Digits text) (hrest : Breaks rest) :
    scanDigits (text ++ rest) = some (text, rest) := by
  have htake : rest.takeWhile Char.isDigit = [] ∧ rest.dropWhile Char.isDigit = rest := by
    cases rest with
    | nil => exact ⟨rfl, rfl⟩
    | cons c rest =>
      have hc : ¬ c.isDigit = true := by simp [hrest c rfl]
      exact ⟨List.takeWhile_cons_of_neg hc, List.dropWhile_cons_of_neg hc⟩
  unfold scanDigits
  rw [List.takeWhile_append_of_pos h.isDigit, List.dropWhile_append_of_pos h.isDigit, htake.1,
    htake.2, List.append_nil]
  exact if_neg (by simpa using h.ne_nil)

theorem scanWhole_append (h : WholePart text) (hrest : Breaks rest) :
    scanWhole (text ++ rest) = some (text, rest) := by
  cases h with
  | zero => rfl
  | digits hdigits hzero =>
    obtain ⟨c, more, rfl, hc⟩ := hdigits.exists_first
    rw [← scanDigits_append hdigits hrest]
    unfold scanWhole
    split
    · rename_i heq
      cases heq
      exact absurd rfl hzero
    · rfl

theorem scanFraction_append (h : FractionPart text) (hbreaks : Breaks rest)
    (hrest : rest.head? ≠ some '.') : scanFraction (text ++ rest) = some (text, rest) := by
  cases h with
  | absent =>
    rw [List.nil_append]
    unfold scanFraction
    split
    · exact absurd rfl hrest
    · rfl
  | digits hdigits => simp only [List.cons_append, scanFraction, scanDigits_append hdigits hbreaks,
      Option.map_some]

theorem scanSignedDigits_append {sign : List Char} (hsign : sign = [] ∨ sign = ['+'] ∨ sign = ['-'])
    (h : Digits text) (hrest : Breaks rest) :
    scanSignedDigits (sign ++ text ++ rest) = some (sign ++ text, rest) := by
  rcases hsign with rfl | rfl | rfl
  · obtain ⟨c, more, rfl, hc⟩ := h.exists_first
    rw [List.nil_append, ← scanDigits_append h hrest]
    unfold scanSignedDigits
    split
    · rename_i heq
      cases heq
      cases hc
    · rename_i heq
      cases heq
      cases hc
    · rfl
  all_goals
    simp only [List.cons_append, List.nil_append, scanSignedDigits, scanDigits_append h hrest,
      Option.map_some]

theorem scanExponent_append (h : ExponentPart text) (hbreaks : Breaks rest)
    (hrest : ∀ c, rest.head? = some c → c ≠ 'e' ∧ c ≠ 'E') :
    scanExponent (text ++ rest) = some (text, rest) := by
  cases h with
  | absent =>
    rw [List.nil_append]
    unfold scanExponent
    split
    · exact absurd rfl (hrest _ rfl).1
    · exact absurd rfl (hrest _ rfl).2
    · rfl
  | digits hmark hsign hdigits =>
    have hscan := scanSignedDigits_append hsign hdigits hbreaks
    rcases hmark with rfl | rfl <;>
      simp only [List.cons_append, scanExponent, hscan, Option.map_some]

theorem scanUnsigned_append {whole fraction exponent : List Char} (hwhole : WholePart whole)
    (hfraction : FractionPart fraction) (hexponent : ExponentPart exponent)
    (hrest : Follows rest) :
    scanUnsigned (whole ++ fraction ++ exponent ++ rest) =
      some (whole ++ fraction ++ exponent, rest) := by
  -- Each part begins with a mark of its own, so none is taken for more of the part before it.
  have hbehind : ∀ c, (exponent ++ rest).head? = some c →
      c.isDigit = false ∧ c ≠ '.' := by
    intro c hc
    cases hexponent with
    | absent => exact ⟨(hrest.stops c hc).1, (hrest.stops c hc).2.1⟩
    | digits hmark _ _ =>
      cases hc
      rcases hmark with rfl | rfl <;> decide
  have hmiddle : Breaks (fraction ++ (exponent ++ rest)) := by
    intro c hc
    cases hfraction with
    | absent => exact (hbehind c hc).1
    | digits _ =>
      cases hc
      rfl
  have hfirst := scanWhole_append hwhole hmiddle
  have hsecond := scanFraction_append hfraction (fun c hc => (hbehind c hc).1)
    (fun hc => (hbehind '.' hc).2 rfl)
  have hthird := scanExponent_append hexponent (fun c hc => (hrest.stops c hc).1)
    (fun c hc => (hrest.stops c hc).2.2)
  simp only [scanUnsigned, List.append_assoc] at *
  simp only [hfirst, hsecond, hthird, Option.bind_eq_bind, Option.bind_some, Option.pure_def]

theorem scanNumber_append (h : NumberText text) (hrest : Follows rest) :
    scanNumber (text ++ rest) = some (text, rest) := by
  obtain ⟨hsign, hwhole, hfraction, hexponent⟩ := h
  have hscan := scanUnsigned_append hwhole hfraction hexponent hrest
  rcases hsign with rfl | rfl
  · obtain ⟨c, more, rfl, hc⟩ := hwhole.exists_first
    rw [List.nil_append, ← hscan]
    unfold scanNumber
    split
    · rename_i heq
      cases heq
      cases hc
    · rfl
  · simp only [List.cons_append, List.nil_append, scanNumber, hscan, Option.map_some]

theorem scanString_plain (hprintable : 0x20 ≤ c.toNat) (hquote : c ≠ '"') (hslash : c ≠ '\\') :
    scanString (c :: text) = (scanString text).map fun (body, rest) => (c :: body, rest) := by
  have hallowed : ¬ (c == '\\' || decide (c.toNat < 0x20)) = true := by
    simp [hslash, Nat.not_lt.mpr hprintable]
  rw [scanString.eq_def]
  split <;> rename_i heq <;> cases heq
  · exact absurd rfl hquote
  · exact absurd rfl hslash
  · exact absurd rfl hslash
  · exact if_neg hallowed

theorem scanString_escape (h : isEscape c = true) :
    scanString ('\\' :: c :: text) =
      (scanString text).map fun (body, rest) => ('\\' :: c :: body, rest) := by
  rw [scanString.eq_def]
  split <;> rename_i heq <;> cases heq
  · cases h
  · exact if_pos h
  · rename_i hother
    exact (hother c text rfl rfl).elim

theorem scanString_code {d₁ d₂ d₃ d₄ : Char} (h : [d₁, d₂, d₃, d₄].all isHexDigit = true) :
    scanString ('\\' :: 'u' :: d₁ :: d₂ :: d₃ :: d₄ :: text) =
      (scanString text).map fun (body, rest) =>
        ('\\' :: 'u' :: d₁ :: d₂ :: d₃ :: d₄ :: body, rest) :=
  if_pos h

theorem scanString_append (h : StringBody body) :
    scanString (body ++ '"' :: rest) = some (body, rest) := by
  induction h with
  | nil => rfl
  | plain hprintable hquote hslash _ ih =>
    rw [List.cons_append, scanString_plain hprintable hquote hslash, ih, Option.map_some]
  | escape hc _ ih =>
    rw [List.cons_append, List.cons_append, scanString_escape hc, ih, Option.map_some]
  | code hdigits _ ih =>
    simp only [List.cons_append]
    rw [scanString_code hdigits, ih, Option.map_some]

theorem scan_number (hc : c = '-' ∨ c.isDigit = true) :
    scan (c :: text) =
      (scanNumber (c :: text)).map fun (digits, rest) => (number digits, rest) := by
  rw [scan.eq_def]
  split
  case h_11 => rfl
  all_goals
    rename_i heq
    cases heq
    rcases hc with hc | hc <;> cases hc

/-- The tokens of a text, whatever the fuel is that the scan has beyond its length. -/
def Scans (text : List Char) (tokens : List Token) : Prop :=
  ∀ fuel, text.length ≤ fuel → scanAll fuel text = some tokens

theorem Scans.ofText?_eq (h : Scans text tokens) : ofText? text = some tokens :=
  h text.length (Nat.le_refl _)

theorem scans_nil : Scans [] [] := by
  intro fuel _
  cases fuel <;> rfl

theorem Scans.space (hspace : isSpace c = true) (h : Scans text tokens) :
    Scans (c :: text) tokens := by
  intro fuel hfuel
  cases fuel with
  | zero => cases hfuel
  | succ fuel =>
    simp only [scanAll, hspace, if_true]
    exact h fuel (Nat.le_of_succ_le_succ hfuel)

theorem Scans.spaces {spaces : List Char} (hspaces : Spaces spaces) (h : Scans text tokens) :
    Scans (spaces ++ text) tokens := by
  induction spaces with
  | nil => exact h
  | cons c spaces ih =>
    apply Scans.space (hspaces c List.mem_cons_self)
    exact ih fun d hd => hspaces d (List.mem_cons_of_mem c hd)

theorem Scans.cons (hspace : isSpace c = false) (hscan : scan (c :: text) = some (token, rest))
    (hle : rest.length ≤ text.length) (h : Scans rest tokens) :
    Scans (c :: text) (token :: tokens) := by
  intro fuel hfuel
  cases fuel with
  | zero => cases hfuel
  | succ fuel =>
    have hlength : rest.length ≤ fuel := Nat.le_trans hle (Nat.le_of_succ_le_succ hfuel)
    simp only [scanAll, hspace, Bool.false_eq_true, if_false, hscan, h fuel hlength,
      Option.map_some]

theorem isSpace_of_isDigit (h : c.isDigit = true) : isSpace c = false := by
  cases hspace : isSpace c with
  | false => rfl
  | true =>
    rcases isSpace_eq_true_iff.mp hspace with rfl | rfl | rfl | rfl <;> cases h

theorem Scans.number (hnumber : NumberText text) (hrest : Follows rest) (h : Scans rest tokens) :
    Scans (text ++ rest) (.number text :: tokens) := by
  have hscan := scanNumber_append hnumber hrest
  obtain ⟨c, more, rfl, hc⟩ := hnumber.exists_first
  have hspace : isSpace c = false := by
    rcases hc with rfl | hdigit
    · rfl
    · exact isSpace_of_isDigit hdigit
  rw [List.cons_append] at hscan ⊢
  apply Scans.cons hspace _ _ h
  · rw [scan_number hc, hscan, Option.map_some]
  · simp

theorem Scans.string (hbody : StringBody body) (h : Scans rest tokens) :
    Scans ('"' :: (body ++ '"' :: rest)) (.string body :: tokens) := by
  apply Scans.cons rfl _ _ h
  · change (scanString (body ++ '"' :: rest)).map _ = _
    rw [scanString_append hbody, Option.map_some]
  · simp only [List.length_append, List.length_cons]
    omega

end Token

end RegisterMachine.Json
