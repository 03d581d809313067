import RegisterMachine.Json.Document
import RegisterMachine.Proofs.JsonToken

/-!
How JSON texts are read. The grammar of values says which texts a document can be written as, with
any white space between the tokens. Every such text has the tokens of the document, and these are
read back to it, so reading gives the document that a text was written from.
-/

namespace RegisterMachine.Json

/-- What the grammar speaks of. -/
inductive Phrase where
  | value (document : Document)
  /-- A value with white space around it. -/
  | element (document : Document)
  /-- The items of an array, with commas between them. -/
  | items (item : Document) (items : List Document)
  /-- The members of an object, with commas between them. Keys are given as they are written. -/
  | members (key : List Char) (value : Document) (members : List (List Char × Document))

/-- The grammar of JSON texts. -/
inductive Phrase.Written : Phrase → List Char → Prop where
  | null : Written (.value .null) ['n', 'u', 'l', 'l']
  | true : Written (.value (.bool true)) ['t', 'r', 'u', 'e']
  | false : Written (.value (.bool false)) ['f', 'a', 'l', 's', 'e']
  | number {text : List Char} : NumberText text → Written (.value (.number text)) text
  | string {body : List Char} : StringBody body →
      Written (.value (.string body)) ('"' :: (body ++ ['"']))
  | emptyArray {spaces : List Char} : Spaces spaces →
      Written (.value (.array [])) ('[' :: (spaces ++ [']']))
  | array {item : Document} {items : List Document} {text : List Char} :
      Written (.items item items) text →
      Written (.value (.array (item :: items))) ('[' :: (text ++ [']']))
  | emptyObject {spaces : List Char} : Spaces spaces →
      Written (.value (.object [])) ('\x7b' :: (spaces ++ ['\x7d']))
  | object {key text : List Char} {value : Document} {members : List (List Char × Document)} :
      Written (.members key value members) text →
      Written (.value (.object ((key, value) :: members))) ('\x7b' :: (text ++ ['\x7d']))
  | element {document : Document} {before text after : List Char} : Spaces before →
      Written (.value document) text → Spaces after →
      Written (.element document) (before ++ (text ++ after))
  | lastItem {item : Document} {text : List Char} : Written (.element item) text →
      Written (.items item []) text
  | items {item next : Document} {items : List Document} {text others : List Char} :
      Written (.element item) text → Written (.items next items) others →
      Written (.items item (next :: items)) (text ++ ',' :: others)
  | lastMember {key before after text : List Char} {value : Document} : Spaces before →
      StringBody key → Spaces after → Written (.element value) text →
      Written (.members key value []) (before ++ '"' :: (key ++ '"' :: (after ++ ':' :: text)))
  | members {key next before after text others : List Char} {value following : Document}
      {members : List (List Char × Document)} : Spaces before → StringBody key → Spaces after →
      Written (.element value) text → Written (.members next following members) others →
      Written (.members key value ((next, following) :: members))
        (before ++ '"' :: (key ++ '"' :: (after ++ ':' :: (text ++ ',' :: others))))

def Document.Written (document : Document) (text : List Char) : Prop :=
  (Phrase.element document).Written text

namespace Document

mutual

def tokens : Document → List Token
  | null => [.null]
  | bool value => [.bool value]
  | number text => [.number text]
  | string body => [.string body]
  | array [] => [.openBracket, .closeBracket]
  | array (item :: items) => .openBracket :: (tokens item ++ (itemTokens items ++ [.closeBracket]))
  | object [] => [.openBrace, .closeBrace]
  | object ((key, value) :: members) =>
    .openBrace :: .string key :: .colon ::
      (tokens value ++ (memberTokens members ++ [.closeBrace]))

/-- The tokens of the items after the first. -/
def itemTokens : List Document → List Token
  | [] => []
  | item :: items => .comma :: (tokens item ++ itemTokens items)

/-- The tokens of the members after the first. -/
def memberTokens : List (List Char × Document) → List Token
  | [] => []
  | (key, value) :: members =>
    .comma :: .string key :: .colon :: (tokens value ++ memberTokens members)

end

theorem tokens_pos (document : Document) : 0 < document.tokens.length := by
  unfold tokens
  split <;> exact Nat.succ_pos _

/-- A value does not begin with the end of an array. -/
theorem exists_tokens_append (document : Document) (rest : List Token) :
    ∃ token more, document.tokens ++ rest = token :: more ∧ token ≠ .closeBracket := by
  unfold tokens
  split <;> exact ⟨_, _, rfl, Token.noConfusion⟩

theorem readValue_array {fuel : Nat} {item : Document} {rest : List Token} :
    readValue (fuel + 1) (.openBracket :: (item.tokens ++ rest)) =
      (readItems fuel (item.tokens ++ rest)).map fun (items, rest) => (array items, rest) := by
  obtain ⟨token, more, hmore, hne⟩ := exists_tokens_append item rest
  rw [hmore]
  cases token with
  | closeBracket => exact absurd rfl hne
  | _ => rfl

/-- With this much fuel, reading takes what a document is written with off the front of the tokens.
Each token may take two calls. -/
structure Reads (fuel : Nat) : Prop where
  value (document : Document) (rest : List Token) : 2 * document.tokens.length ≤ fuel →
    readValue fuel (document.tokens ++ rest) = some (document, rest)
  items (item : Document) (items : List Document) (rest : List Token) :
    2 * (item.tokens.length + (itemTokens items).length) + 1 ≤ fuel →
    readItems fuel (item.tokens ++ (itemTokens items ++ .closeBracket :: rest)) =
      some (item :: items, rest)
  members (key : List Char) (value : Document) (members : List (List Char × Document))
    (rest : List Token) : 2 * (value.tokens.length + (memberTokens members).length) + 1 ≤ fuel →
    readMembers fuel (.string key :: .colon ::
        (value.tokens ++ (memberTokens members ++ .closeBrace :: rest))) =
      some ((key, value) :: members, rest)

variable {fuel : Nat}

theorem Reads.value_succ (h : Reads fuel) (document : Document) (rest : List Token)
    (hfuel : 2 * document.tokens.length ≤ fuel + 1) :
    readValue (fuel + 1) (document.tokens ++ rest) = some (document, rest) := by
  match document with
  | null | bool _ | number _ | string _ | array [] | object [] => rfl
  | array (item :: items) =>
    simp only [tokens, List.length_cons, List.length_append] at hfuel
    simp only [tokens, List.cons_append, List.append_assoc, List.nil_append]
    rw [readValue_array, h.items item items rest (by omega), Option.map_some]
  | object ((key, value) :: members) =>
    simp only [tokens, List.length_cons, List.length_append] at hfuel
    have hmembers := h.members key value members rest (by omega)
    simp only [tokens, List.cons_append, List.append_assoc, List.nil_append, readValue, hmembers,
      Option.map_some]

theorem Reads.items_succ (h : Reads fuel) (item : Document) (items : List Document)
    (rest : List Token)
    (hfuel : 2 * (item.tokens.length + (itemTokens items).length) + 1 ≤ fuel + 1) :
    readItems (fuel + 1) (item.tokens ++ (itemTokens items ++ .closeBracket :: rest)) =
      some (item :: items, rest) := by
  rw [readItems, h.value item _ (by omega)]
  cases items with
  | nil => rfl
  | cons next items =>
    have hpos := tokens_pos item
    simp only [itemTokens, List.length_cons, List.length_append] at hfuel
    have hitems := h.items next items rest (by omega)
    simp only [itemTokens, List.cons_append, List.append_assoc, hitems, Option.map_some]

theorem Reads.members_succ (h : Reads fuel) (key : List Char) (value : Document)
    (members : List (List Char × Document)) (rest : List Token)
    (hfuel : 2 * (value.tokens.length + (memberTokens members).length) + 1 ≤ fuel + 1) :
    readMembers (fuel + 1) (.string key :: .colon ::
        (value.tokens ++ (memberTokens members ++ .closeBrace :: rest))) =
      some ((key, value) :: members, rest) := by
  simp only [readMembers]
  rw [h.value value _ (by omega)]
  cases members with
  | nil => rfl
  | cons member members =>
    have hpos := tokens_pos value
    simp only [memberTokens, List.length_cons, List.length_append] at hfuel
    have hmembers := h.members member.1 member.2 members rest (by omega)
    simp only [memberTokens, List.cons_append, List.append_assoc, hmembers, Option.map_some]

theorem reads (fuel : Nat) : Reads fuel := by
  induction fuel with
  | zero =>
    refine ⟨?_, ?_, ?_⟩
    · intro document rest hfuel
      have hpos := tokens_pos document
      omega
    · intro item items rest hfuel
      omega
    · intro key value members rest hfuel
      omega
  | succ fuel ih => exact ⟨ih.value_succ, ih.items_succ, ih.members_succ⟩

theorem ofText?_of_scans {document : Document} {text : List Char}
    (h : Token.Scans text document.tokens) : ofText? text = some document := by
  have hread := (reads (2 * document.tokens.length + 1)).value document [] (by omega)
  rw [List.append_nil] at hread
  simp only [ofText?, h.ofText?_eq, hread]

end Document

def Phrase.tokens : Phrase → List Token
  | value document => document.tokens
  | element document => document.tokens
  | items first others => first.tokens ++ Document.itemTokens others
  | members key first others =>
    .string key :: .colon :: (first.tokens ++ Document.memberTokens others)

open Token in
/-- A text of a phrase has the tokens of the phrase, if what follows it cannot continue a number. -/
theorem Phrase.Written.scans {phrase : Phrase} {text rest : List Char} {tokens : List Token}
    (h : phrase.Written text) (hrest : Follows rest) (hscans : Scans rest tokens) :
    Scans (text ++ rest) (phrase.tokens ++ tokens) := by
  induction h generalizing rest tokens with
  | null | true | false => exact .cons rfl rfl (by simp [Nat.add_assoc]) hscans
  | number hnumber => exact .number hnumber hrest hscans
  | string hbody =>
    simp only [List.cons_append, List.append_assoc, List.nil_append]
    exact .string hbody hscans
  | emptyArray hspaces | emptyObject hspaces =>
    simp only [List.cons_append, List.append_assoc, List.nil_append]
    exact .cons rfl rfl (Nat.le_refl _) (.spaces hspaces (.cons rfl rfl (Nat.le_refl _) hscans))
  | @array item items text _ ih =>
    have hinner : Scans (text ++ ']' :: rest) (_ ++ .closeBracket :: tokens) :=
      ih (follows_cons (by decide)) (.cons rfl rfl (Nat.le_refl _) hscans)
    simp only [Phrase.tokens, Document.tokens, List.cons_append, List.append_assoc,
      List.nil_append] at hinner ⊢
    exact .cons rfl rfl (Nat.le_refl _) hinner
  | @object key text value members _ ih =>
    have hinner : Scans (text ++ '\x7d' :: rest) (_ ++ .closeBrace :: tokens) :=
      ih (follows_cons (by decide)) (.cons rfl rfl (Nat.le_refl _) hscans)
    simp only [Phrase.tokens, Document.tokens, List.cons_append, List.append_assoc,
      List.nil_append] at hinner ⊢
    exact .cons rfl rfl (Nat.le_refl _) hinner
  | element hbefore _ hafter ih =>
    simp only [List.append_assoc]
    exact .spaces hbefore (ih (hafter.follows_append hrest) (.spaces hafter hscans))
  | lastItem _ ih =>
    simp only [Phrase.tokens, Document.itemTokens, List.append_nil]
    exact ih hrest hscans
  | items _ _ ih ihitems =>
    have hitems := ihitems hrest hscans
    simp only [Phrase.tokens, Document.itemTokens, List.append_assoc, List.cons_append]
      at hitems ⊢
    exact ih (follows_cons (by decide)) (.cons rfl rfl (Nat.le_refl _) hitems)
  | lastMember hbefore hkey hafter _ ih =>
    simp only [Phrase.tokens, Document.memberTokens, List.append_assoc, List.cons_append,
      List.append_nil]
    apply Scans.spaces hbefore
    apply Scans.string hkey
    apply Scans.spaces hafter
    exact .cons rfl rfl (Nat.le_refl _) (ih hrest hscans)
  | members hbefore hkey hafter _ _ ih ihmembers =>
    have hmembers := ihmembers hrest hscans
    simp only [Phrase.tokens, Document.memberTokens, List.append_assoc, List.cons_append]
      at hmembers ⊢
    apply Scans.spaces hbefore
    apply Scans.string hkey
    apply Scans.spaces hafter
    apply Scans.cons rfl rfl (Nat.le_refl _)
    exact ih (follows_cons (by decide)) (.cons rfl rfl (Nat.le_refl _) hmembers)

/-- Every text of a document, with any white space in it, is read as the document. -/
theorem Document.Written.ofText?_eq {document : Document} {text : List Char}
    (h : document.Written text) : Document.ofText? text = some document := by
  have hscans := Phrase.Written.scans h follows_nil Token.scans_nil
  rw [List.append_nil, List.append_nil] at hscans
  exact ofText?_of_scans hscans

end RegisterMachine.Json
