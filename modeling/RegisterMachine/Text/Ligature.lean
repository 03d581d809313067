import RegisterMachine.Text.Width

/-!
Ligatures of scripts. Some letters form one sign with what stands before them, and the sign is
narrower than its characters are on their own. A text is therefore measured from its end: each
letter that can join waits for the characters before it.
-/

namespace RegisterMachine.Text

/-- A letter that can form one sign with what stands before it. -/
inductive Letter where
  /-- An Arabic alef, which a lam takes up. -/
  | alef
  /-- The Hebrew lamed, which a joiner ties to an alef. -/
  | lamed
  /-- The Buginese ya. -/
  | ya
  /-- The Buginese ya behind a joiner and the vowel sign i. -/
  | vowelYa
  /-- A Tifinagh consonant. -/
  | consonant
  /-- A Tifinagh consonant behind a consonant joiner. -/
  | linkedConsonant
  /-- A Lisu tone letter that comes second in a pair. -/
  | tone
  /-- The Old Turkic i. -/
  | orkhonI
  /-- A Khmer letter that can be set below another. -/
  | subscript
  /-- The Kirat Rai vowel sign e. -/
  | vowelE
  /-- The Kirat Rai vowel sign ai. -/
  | vowelAi
  deriving DecidableEq

namespace Letter

/-- Whether joiners and marks that are ignored by default leave the ligature whole. -/
def isLoose : Letter → Bool
  | alef => false
  | vowelE => false
  | vowelAi => false
  | _ => true

/-- Whether a variation selector leaves the ligature whole. -/
def admitsSelector : Letter → Bool
  | vowelE => false
  | vowelAi => false
  | _ => true

end Letter

/-- A waiting letter, and whether a joiner stands before it. -/
structure Joint where
  letter : Letter
  joined : Bool
  deriving DecidableEq

/-- The Arabic letters of the group alef. -/
def alefRanges : List CodeRange := [
  (0x622, 0x623), (0x625, 0x625), (0x627, 0x627), (0x671, 0x673), (0x675, 0x675), (0x773, 0x774),
  (0x870, 0x882)]

/-- The Arabic letters of the group lam. -/
def lamRanges : List CodeRange := [
  (0x644, 0x644), (0x6B5, 0x6B8), (0x76A, 0x76A), (0x8A6, 0x8A6), (0x8C7, 0x8C7)]

/-- The consonants of Tifinagh. -/
def tifinaghRanges : List CodeRange := [(0x2D31, 0x2D65), (0x2D6F, 0x2D6F)]

/-- The Khmer letters that the sign coeng sets below another. -/
def subscriptRanges : List CodeRange := [
  (0x1780, 0x1782), (0x1784, 0x1787), (0x1789, 0x178C), (0x178E, 0x1793), (0x1795, 0x1798),
  (0x179B, 0x179D), (0x17A0, 0x17A0), (0x17A2, 0x17A2), (0x17A7, 0x17A7), (0x17AB, 0x17AC),
  (0x17AF, 0x17AF)]

/-- Marks that are ignored by default. -/
def ignorableMarkRanges : List CodeRange := [
  (0x34F, 0x34F), (0x17B4, 0x17B5), (0x180B, 0x180D), (0x180F, 0x180F), (0xFE00, 0xFE0F),
  (0xE0100, 0xE01EF)]

/-- Code points without a column of their own that Arabic letters cannot join across. -/
def opaqueRanges : List CodeRange := [
  (0x605, 0x605), (0x890, 0x891), (0x8E2, 0x8E2), (0x9BE, 0x9BE), (0x9D7, 0x9D7), (0xB3E, 0xB3E),
  (0xB57, 0xB57), (0xBBE, 0xBBE), (0xBD7, 0xBD7), (0xCC0, 0xCC0), (0xCC2, 0xCC2), (0xCC7, 0xCC8),
  (0xCCA, 0xCCB), (0xCD5, 0xCD6), (0xD3E, 0xD3E), (0xD4E, 0xD4E), (0xD57, 0xD57), (0xDCF, 0xDCF),
  (0xDDF, 0xDDF), (0x1160, 0x11FF), (0x1715, 0x1715), (0x1734, 0x1734), (0x180E, 0x180E),
  (0x1B35, 0x1B35), (0x1B3B, 0x1B3B), (0x1B3D, 0x1B3D), (0x1B43, 0x1B44), (0x1BAA, 0x1BAA),
  (0x1BF2, 0x1BF3), (0x200C, 0x200D), (0x2065, 0x2069), (0x302E, 0x302F), (0x3164, 0x3164),
  (0xA8FA, 0xA8FA), (0xA953, 0xA953), (0xA9C0, 0xA9C0), (0xD7B0, 0xD7C6), (0xD7CB, 0xD7FB),
  (0xFFA0, 0xFFA0), (0xFFF0, 0xFFF8), (0x111C0, 0x111C0), (0x111C2, 0x111C3), (0x11235, 0x11235),
  (0x1133E, 0x1133E), (0x1134D, 0x1134D), (0x11357, 0x11357), (0x113B8, 0x113B8),
  (0x113C2, 0x113C2), (0x113C5, 0x113C5), (0x113C7, 0x113C9), (0x113CF, 0x113CF),
  (0x113D1, 0x113D1), (0x114B0, 0x114B0), (0x114BD, 0x114BD), (0x115AF, 0x115AF),
  (0x116B6, 0x116B6), (0x11930, 0x11930), (0x1193D, 0x1193D), (0x1193F, 0x1193F),
  (0x11941, 0x11941), (0x11A84, 0x11A89), (0x11D46, 0x11D46), (0x11F02, 0x11F02),
  (0x11F41, 0x11F41), (0x16FF0, 0x16FF1), (0x1D165, 0x1D166), (0x1D16D, 0x1D172),
  (0xE0000, 0xE0000), (0xE0002, 0xE001F), (0xE0080, 0xE00FF), (0xE01F0, 0xE0FFF)]

/-- Whether Arabic letters join across the character. -/
def isTransparent (c : Char) : Bool :=
  charWidth c == 0 && !inRanges opaqueRanges c

/-- Whether the character is the zero width joiner. -/
def isJoiner (c : Char) : Bool :=
  c.toNat == 0x200D

namespace Joint

/-- The letter that the character is, if it can join what stands before it. -/
def ofChar? (c : Char) : Option Joint :=
  let code := c.toNat
  if inRanges alefRanges c then some ⟨.alef, false⟩
  else if code = 0x5DC then some ⟨.lamed, false⟩
  else if inRanges subscriptRanges c then some ⟨.subscript, false⟩
  else if code = 0x1A10 then some ⟨.ya, false⟩
  else if inRanges tifinaghRanges c then some ⟨.consonant, false⟩
  else if 0xA4FC ≤ code && code ≤ 0xA4FD then some ⟨.tone, false⟩
  else if code = 0x10C03 then some ⟨.orkhonI, false⟩
  else if code = 0x16D67 then some ⟨.vowelE, false⟩
  else if code = 0x16D68 then some ⟨.vowelAi, false⟩
  else none

/-- The columns that a character adds when it joins the letter after it, and the letter that waits
from then on; none if the two stay apart. -/
def before? (joint : Joint) (c : Char) : Option (Int × Option Joint) :=
  let code := c.toNat
  if joint.letter.isLoose && isJoiner c then some (0, some ⟨joint.letter, true⟩)
  else if joint.letter.isLoose && inRanges ignorableMarkRanges c then some (0, some joint)
  else
    match joint.letter with
    | .alef =>
      if inRanges lamRanges c then some (0, none)
      else if isTransparent c then some (0, some joint)
      else none
    | .lamed => if joint.joined && code = 0x5D0 then some (0, none) else none
    | .ya => if joint.joined && code = 0x1A17 then some (0, some ⟨.vowelYa, true⟩) else none
    | .vowelYa => if code = 0x1A15 then some (0, none) else none
    | .consonant =>
      if code = 0x2D7F then some (1, some ⟨.linkedConsonant, true⟩)
      else if joint.joined && inRanges tifinaghRanges c then some (0, none)
      else none
    | .linkedConsonant => if inRanges tifinaghRanges c then some (-1, none) else none
    | .tone => if 0xA4F8 ≤ code && code ≤ 0xA4FB then some (0, none) else none
    | .orkhonI => if joint.joined && code = 0x10C32 then some (0, none) else none
    | .subscript => if code = 0x17D2 then some (-1, none) else none
    | .vowelE =>
      if code = 0x16D67 then some (0, some ⟨.vowelAi, false⟩)
      else if code = 0x16D68 then some (1, some ⟨.vowelE, false⟩)
      else if code = 0x16D63 || code = 0x16D69 then some (0, none)
      else none
    | .vowelAi => if code = 0x16D63 then some (0, none) else none

end Joint

end RegisterMachine.Text
