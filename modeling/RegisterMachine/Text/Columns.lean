import RegisterMachine.Text.Emoji
import RegisterMachine.Text.Ligature

/-!
Display width of a text. Its characters add up, except where they form one sign: ligatures, emoji
with a skin tone, emoji tied by joiners, and characters that a variation selector changes. The
text is measured from its end, and what has been measured is known by how it begins.
-/

namespace RegisterMachine.Text

/-- How a text begins, as far as a character before it can join it. -/
inductive Tail where
  | plain
  /-- A letter that can form a ligature. -/
  | joint (joint : Joint)
  /-- An emoji, or a sequence that is shown as one. -/
  | emoji
  | skinTone
  /-- So many regional indicators. -/
  | indicators (count : Nat)
  /-- A joiner and an emoji. -/
  | joinedEmoji
  /-- A keycap, a joiner and an emoji. -/
  | joinedKeycap
  /-- So many regional indicators, a joiner and an emoji. -/
  | joinedIndicators (count : Nat)
  /-- So many tags, the end of tags, a joiner and an emoji. -/
  | joinedTags (count : Nat)
  deriving DecidableEq

/-- What a variation selector asks for. -/
inductive Selector where
  /-- A picture, two columns wide. -/
  | picture
  /-- A plain symbol, one column wide. -/
  | symbol
  /-- A quotation mark two columns wide. -/
  | fullWidth
  deriving DecidableEq

/-- The measured end of a text: how it begins behind a selector, if it begins with one. -/
structure Rest where
  tail : Tail := .plain
  selector : Option Selector := none
  deriving DecidableEq

namespace Selector

def ofChar? (c : Char) : Option Selector :=
  if c.toNat = 0xFE0F then some .picture
  else if c.toNat = 0xFE0E then some .symbol
  else if c.toNat = 0xFE01 then some .fullWidth
  else none

end Selector

/-- Whether a selector can make the quotation mark full-width. -/
def isQuotationMark (c : Char) : Bool :=
  inRanges [(0x2018, 0x2019), (0x201C, 0x201D)] c

namespace Tail

/-- How a text that begins with the character begins. -/
def ofChar (c : Char) : Tail :=
  if isRegionalIndicator c then indicators 1
  else if isSkinTone c then skinTone
  else if isEmoji c then emoji
  else
    match Joint.ofChar? c with
    | some waiting => joint waiting
    | none => plain

/-- The text behind a selector. A selector cuts off what follows it, but not inside a ligature nor
between a picture and the emoji it is joined to. -/
def select (tail : Tail) (selector : Selector) : Rest :=
  match tail, selector with
  | joint waiting, _ => ⟨if waiting.letter.admitsSelector then tail else plain, some selector⟩
  | joinedEmoji, .picture => ⟨tail, some selector⟩
  | joinedKeycap, .picture => ⟨tail, some selector⟩
  | _, _ => ⟨plain, some selector⟩

/-- Whether the text begins with what a joiner ties to the character before a selector. -/
def isJoined : Tail → Bool
  | joinedEmoji => true
  | joinedKeycap => true
  | _ => false

/-- What is left of a text behind a selector that does not apply. -/
def release : Tail → Tail
  | joint waiting => joint waiting
  | _ => plain

/-- The columns that a character adds when it joins the text after it, and how the text then
begins; none if the two stay apart. -/
def before? (tail : Tail) (c : Char) : Option (Int × Tail) :=
  match tail with
  | plain => none
  | joint waiting =>
    match waiting.before? c with
    | some (columns, some waiting) => some (columns, joint waiting)
    | some (columns, none) => some (columns, plain)
    | none => none
  | emoji => if isJoiner c then some (0, joinedEmoji) else none
  | skinTone =>
    if isJoiner c then some (0, joinedEmoji)
    else if isSkinToneBase c then some (0, emoji)
    else none
  | indicators count =>
    if isRegionalIndicator c then some (1, indicators (count + 1))
    else if isJoiner c && 2 ≤ count then some (0, joinedEmoji)
    else none
  | joinedEmoji =>
    if c.toNat = 0x20E3 then some (0, joinedKeycap)
    else if isRegionalIndicator c then some (1, joinedIndicators 1)
    else if isSkinTone c then some (0, skinTone)
    else if c.toNat = 0xE007F then some (0, joinedTags 0)
    else if isEmoji c then some (0, emoji)
    else none
  | joinedKeycap => none
  | joinedIndicators count =>
    if isRegionalIndicator c then
      some (if count % 2 = 1 then -1 else 3, joinedIndicators (count + 1))
    else if isJoiner c && 2 ≤ count then some (0, joinedEmoji)
    else none
  | joinedTags count =>
    if isTag c then some (0, joinedTags (count + 1))
    else if c.toNat = 0x1F3F4 && 3 ≤ count && count ≤ 6 then some (0, emoji)
    else none

/-- The columns that a character adds before the text, and the longer text. -/
def before (tail : Tail) (c : Char) : Int × Rest :=
  if c.toNat ≤ 0xA0 then (1, {})
  else
    match Selector.ofChar? c with
    | some selector => (0, tail.select selector)
    | none =>
      match tail.before? c with
      | some (columns, tail) => (columns, { tail })
      | none => (charWidth c, { tail := ofChar c })

end Tail

/-- The columns that a character adds before the rest, and the longer rest. -/
def Rest.before (rest : Rest) (c : Char) : Int × Rest :=
  match rest.selector with
  | none => rest.tail.before c
  | some .picture =>
    if isEmojiBase c then (if rest.tail.isJoined then 0 else 2, { tail := .emoji })
    else rest.tail.release.before c
  | some .symbol => if isSymbolBase c then (1, {}) else rest.tail.release.before c
  | some .fullWidth => if isQuotationMark c then (2, {}) else rest.tail.release.before c

/-- The columns that the characters take, and how they begin. -/
def measure (text : List Char) : Int × Rest :=
  text.foldr (fun c measured =>
    let (columns, rest) := measured.2.before c
    (measured.1 + columns, rest)) (0, {})

/-- The columns that a text without line feeds takes. -/
def displayWidth (text : String) : Nat :=
  (measure text.toList).1.toNat

end RegisterMachine.Text
