import RegisterMachine.Opcode
import RegisterMachine.Program.Basic
import RegisterMachine.Proofs.Quotation

/-!
Writing a statement down and reading it again. The operands that a line yields can be joined by
commas: behind a mnemonic they read as the same operands. A line has a label exactly when its text
begins with a name and a colon.
-/

namespace RegisterMachine

namespace Source

open Quotation

variable {text name token raw : List Char} {tokens : List (List Char)} {c : Char}

theorem isBlank_bounds (h : Text.isBlank c = true) : c.toNat ≤ 0x20 ∨ 0x85 ≤ c.toNat := by
  simp only [Text.isBlank, Bool.or_eq_true, Bool.and_eq_true, decide_eq_true_eq, beq_iff_eq] at h
  omega

def isWordChar (c : Char) : Bool :=
  c.isAlphanum || c == '_'

theorem isWordChar_bounds (h : isWordChar c = true) : 48 ≤ c.toNat ∧ c.toNat ≤ 122 := by
  change (((decide (c.val ≥ 65 ∧ c.val ≤ 90) ||
    decide (c.val ≥ 97) && decide (c.val ≤ 122)) ||
    decide (c.val ≥ 48) && decide (c.val ≤ 57)) || c == '_') = true at h
  simp only [Bool.or_eq_true, Bool.and_eq_true, decide_eq_true_eq, beq_iff_eq, ge_iff_le,
    UInt32.le_iff_toNat_le] at h
  change (((65 ≤ c.toNat ∧ c.toNat ≤ 90) ∨ (97 ≤ c.toNat ∧ c.toNat ≤ 122)) ∨
    (48 ≤ c.toNat ∧ c.toNat ≤ 57)) ∨ c = '_' at h
  rcases h with h | rfl
  · omega
  · decide

theorem isBlank_of_isWordChar (h : isWordChar c = true) : Text.isBlank c = false := by
  rw [Bool.eq_false_iff]
  intro hblank
  have hbounds := isBlank_bounds hblank
  have hword := isWordChar_bounds h
  omega

theorem isQuote_of_isWordChar (h : isWordChar c = true) : isQuote c = false := by
  rw [Bool.eq_false_iff]
  intro hquote
  rcases (by simpa [isQuote] using hquote : c = '\'' ∨ c = '"') with rfl | rfl <;> cases h

theorem isCommentMark_of_isWordChar (h : isWordChar c = true) : isCommentMark c = false := by
  rw [Bool.eq_false_iff]
  intro hmark
  rcases (by simpa [isCommentMark] using hmark : c = ';' ∨ c = '#') with rfl | rfl <;> cases h

theorem isComma_of_isWordChar (h : isWordChar c = true) : isComma c = false := by
  rw [Bool.eq_false_iff]
  intro hcomma
  obtain rfl : c = ',' := by simpa [isComma] using hcomma
  cases h

theorem isWordChar_of_isIdentifier (h : isIdentifier name = true) :
    ∀ c ∈ name, isWordChar c = true := by
  cases name with
  | nil => cases h
  | cons first rest =>
    simp only [isIdentifier, Bool.and_eq_true, List.all_eq_true] at h
    intro c hc
    rcases List.mem_cons.mp hc with rfl | hc
    · have hfirst : c.isAlpha = true ∨ c = '_' := by simpa using h.1
      rcases hfirst with hfirst | rfl
      · simp [isWordChar, Char.isAlphanum, hfirst]
      · rfl
    · exact h.2 c hc

theorem isIdentifier_of_mem_space (h : ' ' ∈ name) : isIdentifier name = false := by
  rw [Bool.eq_false_iff]
  intro hname
  cases isWordChar_of_isIdentifier hname _ h

/-- The label that a text begins with is an identifier in front of a colon. -/
theorem splitLabel?_eq_some_cases {rest : List Char} (h : splitLabel? text = some (name, rest)) :
    isIdentifier name = true ∧ ∃ tail, text = name ++ ':' :: tail ∧ rest = Text.trim tail := by
  unfold splitLabel? at h
  split at h
  · cases h
  · rename_i colon tail htail
    simp only at h
    split at h
    · rename_i hname
      cases h
      refine ⟨hname, tail, ?_, rfl⟩
      have hcolon : colon = ':' := by
        have hhead := List.head?_dropWhile_not (· != ':') text
        rw [htail] at hhead
        simpa using hhead
      rw [hcolon] at htail
      rw [← htail, List.takeWhile_append_dropWhile]
    · cases h

theorem ne_colon_of_isIdentifier (h : isIdentifier name = true) :
    ∀ c ∈ name, (c != ':') = true := by
  intro c hc
  rw [bne_iff_ne]
  rintro rfl
  cases isWordChar_of_isIdentifier h _ hc

theorem splitLabel?_colon (h : isIdentifier name = true) (tail : List Char) :
    splitLabel? (name ++ ':' :: tail) = some (name, Text.trim tail) := by
  have hcolon := ne_colon_of_isIdentifier h
  unfold splitLabel?
  rw [List.dropWhile_append_of_pos hcolon, List.takeWhile_append_of_pos hcolon]
  simp only [List.dropWhile, bne_self_eq_false, List.takeWhile, List.append_nil, h, ite_true]

/-- What stands behind a mnemonic: nothing, or a blank and the operands with commas between them. -/
def operandText : List (List Char) → List Char
  | [] => []
  | token :: rest => ' ' :: List.intercalate [',', ' '] (token :: rest)

theorem splitLabel?_mnemonic (h : isIdentifier name = true) (tokens : List (List Char)) :
    splitLabel? (name ++ operandText tokens) = none := by
  have hcolon := ne_colon_of_isIdentifier h
  unfold splitLabel?
  rw [List.dropWhile_append_of_pos hcolon, List.takeWhile_append_of_pos hcolon]
  cases tokens with
  | nil => rfl
  | cons token rest =>
    -- The blank behind the mnemonic comes before any colon.
    have hblank : ' ' ∈ name ++ List.takeWhile (· != ':') (operandText (token :: rest)) := by
      simp [operandText]
    split
    · rfl
    · simp only [isIdentifier_of_mem_space hblank, Bool.false_eq_true, ite_false]

theorem splitMnemonic_mnemonic (h : isIdentifier name = true) (tokens : List (List Char)) :
    splitMnemonic (name ++ operandText tokens) = (name, Text.trim (operandText tokens)) := by
  have hsolid : ∀ c ∈ name, (!Text.isBlank c) = true := by
    intro c hc
    rw [isBlank_of_isWordChar (isWordChar_of_isIdentifier h c hc)]
    rfl
  unfold splitMnemonic
  rw [List.dropWhile_append_of_pos hsolid, List.takeWhile_append_of_pos hsolid]
  cases tokens with
  | nil => simp [operandText]
  | cons token rest =>
    have hblank : Text.isBlank ' ' = true := rfl
    simp only [operandText, List.dropWhile_cons, List.takeWhile_cons, hblank, Bool.not_true,
      Bool.false_eq_true, ite_false, List.append_nil]

/-- Operand tokens that can be written on one line and read again. -/
structure Writable (tokens : List (List Char)) : Prop where
  pieces : Pieces outside tokens
  solid : ∀ token ∈ tokens, Text.StartsSolid token ∧ Text.EndsSolid token
  oneLine : ∀ token ∈ tokens, '\n' ∉ token

theorem writable_nil : Writable [] where
  pieces := trivial
  solid := fun _ htoken => absurd htoken List.not_mem_nil
  oneLine := fun _ htoken => absurd htoken List.not_mem_nil

theorem Writable.cons (h : Writable tokens) (hcomma : Free isComma outside token)
    (hmark : Free isCommentMark outside token) (hafter : outside.after token = outside)
    (hsolid : Text.StartsSolid token ∧ Text.EndsSolid token) (hline : '\n' ∉ token) :
    Writable (token :: tokens) where
  pieces := ⟨hcomma, hmark, .inr hafter, h.pieces⟩
  solid := List.forall_mem_cons.mpr ⟨hsolid, h.solid⟩
  oneLine := List.forall_mem_cons.mpr ⟨hline, h.oneLine⟩

theorem Writable.tail (h : Writable (token :: tokens)) : Writable tokens where
  pieces := h.pieces.2.2.2
  solid := fun other hother => h.solid other (List.mem_cons_of_mem _ hother)
  oneLine := fun other hother => h.oneLine other (List.mem_cons_of_mem _ hother)

theorem Writable.trim_eq (h : Writable (token :: tokens)) : Text.trim token = token :=
  Text.trim_of_solid (h.solid token List.mem_cons_self).1 (h.solid token List.mem_cons_self).2

theorem Writable.isEmpty_eq (h : Writable (token :: tokens)) : token.isEmpty = false := by
  obtain ⟨⟨c, hhead, _⟩, _⟩ := h.solid token List.mem_cons_self
  obtain ⟨rest, rfl⟩ := List.head?_eq_some_iff.mp hhead
  rfl

theorem fragments_ne_nil (state : Quotation) (text : List Char) : fragments state text ≠ [] := by
  cases text with
  | nil => exact List.cons_ne_nil _ _
  | cons c text =>
    unfold fragments
    split
    · exact List.cons_ne_nil _ _
    · exact Text.consFirst_ne_nil _ _

theorem operandTokens_cons_space (text : List Char) :
    operandTokens (' ' :: text) = operandTokens text := by
  have hfragments : fragments outside (' ' :: text) = Text.consFirst ' ' (fragments outside text) :=
    fragments_cons (fun _ => rfl) text
  obtain ⟨first, rest, hrest⟩ := List.exists_cons_of_ne_nil (fragments_ne_nil outside text)
  simp only [operandTokens, hfragments, hrest, Text.consFirst, List.map_cons,
    Text.trim_cons_of_isBlank (rfl : Text.isBlank ' ' = true)]

theorem intercalate_comma (token next : List Char) (rest : List (List Char)) :
    List.intercalate [',', ' '] (token :: next :: rest) =
      token ++ ',' :: ' ' :: List.intercalate [',', ' '] (next :: rest) := by
  rw [List.intercalate_cons_cons, List.append_assoc]
  rfl

/-- Tokens with commas between them are the operands they were. -/
theorem Writable.operandTokens_intercalate (h : Writable tokens) :
    operandTokens (List.intercalate [',', ' '] tokens) = tokens := by
  induction tokens with
  | nil => rfl
  | cons token rest ih =>
    obtain ⟨hcomma, _, hlast, _⟩ := h.pieces
    cases rest with
    | nil =>
      rw [List.intercalate_singleton, operandTokens, fragments_of_free hcomma]
      simp [h.trim_eq, h.isEmpty_eq]
    | cons next rest =>
      have hclosed := hlast.resolve_left (List.cons_ne_nil next rest)
      have hrest := ih h.tail
      rw [← operandTokens_cons_space, operandTokens] at hrest
      rw [intercalate_comma, operandTokens, fragments_append_comma hcomma hclosed, List.map_cons,
        List.filter_cons, h.trim_eq, h.isEmpty_eq, hrest]
      rfl

theorem Writable.free_intercalate (h : Writable tokens) :
    Free isCommentMark outside (List.intercalate [',', ' '] tokens) := by
  induction tokens with
  | nil => trivial
  | cons token rest ih =>
    obtain ⟨_, hmark, hlast, _⟩ := h.pieces
    cases rest with
    | nil => rwa [List.intercalate_singleton]
    | cons next rest =>
      have hclosed := hlast.resolve_left (List.cons_ne_nil next rest)
      rw [intercalate_comma, free_append_iff, hclosed]
      exact ⟨hmark, fun _ => rfl, fun _ => rfl, ih h.tail⟩

theorem Writable.startsSolid_intercalate (h : Writable (token :: tokens)) :
    Text.StartsSolid (List.intercalate [',', ' '] (token :: tokens)) := by
  have htoken := (h.solid token List.mem_cons_self).1
  cases tokens with
  | nil => rwa [List.intercalate_singleton]
  | cons next rest =>
    rw [intercalate_comma]
    exact htoken.append _

theorem Writable.endsSolid_intercalate (h : Writable (token :: tokens)) :
    Text.EndsSolid (List.intercalate [',', ' '] (token :: tokens)) := by
  induction tokens generalizing token with
  | nil =>
    rw [List.intercalate_singleton]
    exact (h.solid token List.mem_cons_self).2
  | cons next rest ih =>
    rw [intercalate_comma, List.append_cons, List.append_cons]
    exact (ih h.tail).append _

theorem Writable.oneLine_intercalate (h : Writable tokens) :
    '\n' ∉ List.intercalate [',', ' '] tokens := by
  induction tokens with
  | nil => exact List.not_mem_nil
  | cons token rest ih =>
    have htoken := h.oneLine token List.mem_cons_self
    cases rest with
    | nil => rwa [List.intercalate_singleton]
    | cons next rest =>
      rw [intercalate_comma]
      simpa [htoken] using ih h.tail

theorem Writable.operandTokens_operandText (h : Writable tokens) :
    operandTokens (Text.trim (operandText tokens)) = tokens := by
  cases tokens with
  | nil => rfl
  | cons token rest =>
    rw [operandText, Text.trim_cons_of_isBlank rfl,
      Text.trim_of_solid h.startsSolid_intercalate h.endsSolid_intercalate,
      h.operandTokens_intercalate]

theorem Writable.free_operandText (h : Writable tokens) :
    Free isCommentMark outside (operandText tokens) := by
  cases tokens with
  | nil => trivial
  | cons token rest => exact ⟨fun _ => rfl, h.free_intercalate⟩

theorem Writable.oneLine_operandText (h : Writable tokens) : '\n' ∉ operandText tokens := by
  cases tokens with
  | nil => exact List.not_mem_nil
  | cons token rest => simpa [operandText] using h.oneLine_intercalate

theorem oneLine_of_isIdentifier (h : isIdentifier name = true) : '\n' ∉ name := by
  intro hfeed
  cases isWordChar_of_isIdentifier h _ hfeed

theorem startsSolid_of_isIdentifier (h : isIdentifier name = true) : Text.StartsSolid name := by
  cases name with
  | nil => cases h
  | cons c rest =>
    exact ⟨c, rfl, isBlank_of_isWordChar (isWordChar_of_isIdentifier h c List.mem_cons_self)⟩

theorem endsSolid_of_isIdentifier (h : isIdentifier name = true) : Text.EndsSolid name := by
  obtain ⟨c, hlast⟩ : ∃ c, name.getLast? = some c := by
    cases name with
    | nil => cases h
    | cons c rest => exact ⟨_, List.getLast?_cons⟩
  have hword := isWordChar_of_isIdentifier h c (List.mem_of_getLast? hlast)
  exact ⟨c, hlast, isBlank_of_isWordChar hword⟩

theorem free_of_isIdentifier {mark : Char → Bool}
    (hmark : ∀ c, isWordChar c = true → mark c = false) (h : isIdentifier name = true) :
    Free mark outside name := by
  have hword := isWordChar_of_isIdentifier h
  exact free_outside (fun c hc => isQuote_of_isWordChar (hword c hc)) fun c hc =>
    hmark c (hword c hc)

theorem after_of_isIdentifier (h : isIdentifier name = true) : outside.after name = outside :=
  after_outside fun c hc => isQuote_of_isWordChar (isWordChar_of_isIdentifier h c hc)

theorem Writable.cons_name (h : Writable tokens) (hname : isIdentifier name = true) :
    Writable (name :: tokens) := by
  have hcomma := free_of_isIdentifier (fun _ => isComma_of_isWordChar) hname
  have hmark := free_of_isIdentifier (fun _ => isCommentMark_of_isWordChar) hname
  exact h.cons hcomma hmark (after_of_isIdentifier hname)
    ⟨startsSolid_of_isIdentifier hname, endsSolid_of_isIdentifier hname⟩
    (oneLine_of_isIdentifier hname)

theorem trim_uncommented (hfree : Free isCommentMark outside text) (hstart : Text.StartsSolid text)
    (hend : Text.EndsSolid text) : Text.trim (uncommented outside text) = text := by
  rw [uncommented_of_free hfree, Text.trim_of_solid hstart hend]

theorem ofLine_label (h : isIdentifier name = true) :
    Statement.ofLine (name ++ [':']) = ⟨some (String.ofList name), none⟩ := by
  have hfree : Free isCommentMark outside (name ++ [':']) := by
    rw [free_append_iff, after_of_isIdentifier h]
    exact ⟨free_of_isIdentifier (fun _ => isCommentMark_of_isWordChar) h, fun _ => rfl, trivial⟩
  have hcolon : Text.EndsSolid [':'] := ⟨':', rfl, rfl⟩
  unfold Statement.ofLine
  rw [trim_uncommented hfree ((startsSolid_of_isIdentifier h).append _) (hcolon.append _)]
  simp only [splitLabel?_colon h]
  rfl

theorem Writable.endsSolid_line (h : Writable tokens) (hname : isIdentifier name = true) :
    Text.EndsSolid (name ++ operandText tokens) := by
  cases tokens with
  | nil =>
    rw [operandText, List.append_nil]
    exact endsSolid_of_isIdentifier hname
  | cons token rest =>
    rw [operandText, List.append_cons]
    exact h.endsSolid_intercalate.append _

theorem ofLine_action (h : isIdentifier name = true) (hupper : Text.uppercase name = name)
    (hwritable : Writable tokens) :
    Statement.ofLine (name ++ operandText tokens) =
      ⟨none, some ⟨String.ofList name, tokens.map String.ofList⟩⟩ := by
  have hfree : Free isCommentMark outside (name ++ operandText tokens) := by
    rw [free_append_iff, after_of_isIdentifier h]
    have hname := free_of_isIdentifier (fun _ => isCommentMark_of_isWordChar) h
    exact ⟨hname, hwritable.free_operandText⟩
  have hempty : (name ++ operandText tokens).isEmpty = false := by
    cases name with
    | nil => cases h
    | cons c rest => rfl
  unfold Statement.ofLine
  rw [trim_uncommented hfree ((startsSolid_of_isIdentifier h).append _)
    (hwritable.endsSolid_line h)]
  simp only [splitLabel?_mnemonic h, Action.ofText?, hempty, splitMnemonic_mnemonic h, hupper,
    hwritable.operandTokens_operandText, Bool.false_eq_true, ite_false]

theorem mem_of_mem_trim (h : c ∈ Text.trim text) : c ∈ text := by
  obtain ⟨front, back, _, _, htext⟩ := Text.exists_trim text
  rw [htext]
  exact List.mem_append_right front (List.mem_append_left back h)

theorem isPrefix_uncommented (state : Quotation) (text : List Char) :
    uncommented state text <+: text := by
  induction text generalizing state with
  | nil => exact List.nil_prefix
  | cons c rest ih =>
    unfold uncommented
    split
    · exact List.nil_prefix
    · exact List.cons_prefix_cons.mpr ⟨rfl, ih _⟩

theorem mem_of_mem_uncommented {state : Quotation} (h : c ∈ uncommented state text) :
    c ∈ text :=
  (isPrefix_uncommented state text).subset h

theorem mem_of_mem_fragments {state : Quotation} {piece : List Char}
    (hpiece : piece ∈ fragments state text) (h : c ∈ piece) : c ∈ text := by
  induction text generalizing state piece with
  | nil =>
    rw [List.mem_singleton.mp hpiece] at h
    exact h
  | cons first text ih =>
    unfold fragments at hpiece
    split at hpiece
    · rcases List.mem_cons.mp hpiece with rfl | hpiece
      · cases h
      · exact List.mem_cons_of_mem _ (ih hpiece h)
    · obtain ⟨front, rest, hrest⟩ :=
        List.exists_cons_of_ne_nil (fragments_ne_nil (state.next first) text)
      rw [hrest] at hpiece
      rcases List.mem_cons.mp hpiece with rfl | hpiece
      · rcases List.mem_cons.mp h with rfl | h
        · exact List.mem_cons_self
        · exact List.mem_cons_of_mem _ (ih (hrest ▸ List.mem_cons_self) h)
      · exact List.mem_cons_of_mem _ (ih (hrest ▸ List.mem_cons_of_mem _ hpiece) h)

theorem mem_of_mem_operandTokens {token : List Char} (htoken : token ∈ operandTokens text)
    (h : c ∈ token) : c ∈ text := by
  obtain ⟨piece, hpiece, rfl⟩ := List.mem_map.mp (List.mem_filter.mp htoken).1
  exact mem_of_mem_fragments hpiece (mem_of_mem_trim h)

/-- The operands of a text can be written again, provided that it is free of comments. -/
theorem writable_operandTokens (hfree : Free isCommentMark outside text) (hline : '\n' ∉ text) :
    Writable (operandTokens text) where
  pieces := (pieces_fragments hfree).map_trim.filter _
  solid := by
    intro token htoken
    obtain ⟨hmem, hempty⟩ := List.mem_filter.mp htoken
    obtain ⟨piece, _, rfl⟩ := List.mem_map.mp hmem
    have hne : Text.trim piece ≠ [] := by simpa using hempty
    exact ⟨Text.startsSolid_trim hne, Text.endsSolid_trim hne⟩
  oneLine := by
    intro token htoken hfeed
    exact hline (mem_of_mem_operandTokens htoken hfeed)

theorem mem_uppercase_of_isQuote (hc : isQuote c = true) (h : c ∈ text) :
    c ∈ Text.uppercase text := by
  refine List.mem_flatMap.mpr ⟨c, h, ?_⟩
  rcases (by simpa [isQuote] using hc : c = '\'' ∨ c = '"') with rfl | rfl <;> decide

@[simp] theorem map_toList_ofList (tokens : List (List Char)) :
    (tokens.map String.ofList).map String.toList = tokens := by
  rw [List.map_map]
  exact List.map_id'' (fun _ => String.toList_ofList) tokens

@[simp] theorem map_ofList_toList (tokens : List String) :
    (tokens.map String.toList).map String.ofList = tokens := by
  rw [List.map_map]
  exact List.map_id'' (fun _ => String.ofList_toList) tokens

theorem writable_of_ofText? {action : Action} (hfree : Free isCommentMark outside text)
    (hline : '\n' ∉ text) (h : Action.ofText? text = some action)
    (hopcode : isIdentifier action.opcode.toList = true) :
    Writable (action.operands.map String.toList) := by
  unfold Action.ofText? at h
  split at h
  · cases h
  · cases h
    simp only [String.toList_ofList, map_toList_ofList] at hopcode ⊢
    have hquote : ∀ c ∈ text.takeWhile (!Text.isBlank ·), isQuote c = false := by
      intro c hc
      rw [Bool.eq_false_iff]
      intro hquote
      have hword := isWordChar_of_isIdentifier hopcode c (mem_uppercase_of_isQuote hquote hc)
      rw [isQuote_of_isWordChar hword] at hquote
      cases hquote
    -- The mnemonic opens no span, so its operands are read from outside of spans again.
    have hsplit : text = text.takeWhile (!Text.isBlank ·) ++ text.dropWhile (!Text.isBlank ·) :=
      List.takeWhile_append_dropWhile.symm
    rw [hsplit, free_append_iff, after_outside hquote] at hfree
    apply writable_operandTokens (free_trim hfree.2)
    intro hfeed
    rw [hsplit] at hline
    exact hline (List.mem_append_right _ (mem_of_mem_trim hfeed))

/-- The operands of a line can be written again behind a mnemonic that is a name. -/
theorem writable_of_ofLine {action : Action} (hline : '\n' ∉ raw)
    (h : (Statement.ofLine raw).action = some action)
    (hopcode : isIdentifier action.opcode.toList = true) :
    Writable (action.operands.map String.toList) := by
  unfold Statement.ofLine at h
  have hfree := free_trim (free_uncommented outside raw)
  have hfeed : '\n' ∉ Text.trim (uncommented outside raw) :=
    fun hfeed => hline (mem_of_mem_uncommented (mem_of_mem_trim hfeed))
  generalize Text.trim (uncommented outside raw) = text at h hfree hfeed
  simp only at h
  split at h
  · rename_i name rest hlabel
    obtain ⟨hname, tail, rfl, rfl⟩ := splitLabel?_eq_some_cases hlabel
    rw [free_append_iff, after_of_isIdentifier hname] at hfree
    refine writable_of_ofText? (free_trim hfree.2.2) ?_ h hopcode
    intro htail
    exact hfeed (List.mem_append_right _ (List.mem_cons_of_mem _ (mem_of_mem_trim htail)))
  · exact writable_of_ofText? hfree hfeed h hopcode

/-- A line defines the label that its text begins with, a colon right behind it. -/
theorem label_ofLine_iff {label : String} : (Statement.ofLine raw).label = some label ↔
    isIdentifier label.toList = true ∧
      label.toList ++ [':'] <+: Text.trim (uncommented outside raw) := by
  unfold Statement.ofLine
  generalize Text.trim (uncommented outside raw) = text
  constructor
  · intro h
    simp only at h
    split at h
    · rename_i name rest hlabel
      cases h
      obtain ⟨hname, tail, htext, _⟩ := splitLabel?_eq_some_cases hlabel
      rw [String.toList_ofList]
      exact ⟨hname, tail, by rw [htext, List.append_assoc]; rfl⟩
    · cases h
  · rintro ⟨hname, tail, rfl⟩
    rw [List.append_assoc, List.singleton_append]
    simp only [splitLabel?_colon hname, String.ofList_toList]

theorem isIdentifier_of_ofLine {label : String} (h : (Statement.ofLine raw).label = some label) :
    isIdentifier label.toList = true :=
  (label_ofLine_iff.mp h).1

end Source

@[simp] theorem Opcode.isIdentifier_mnemonic (opcode : Opcode) :
    Source.isIdentifier opcode.mnemonic.toList = true := by
  cases opcode <;> rfl

@[simp] theorem Opcode.uppercase_mnemonic (opcode : Opcode) :
    Text.uppercase opcode.mnemonic.toList = opcode.mnemonic.toList := by
  cases opcode <;> rfl

theorem Instruction.toList_text (instruction : Instruction) :
    instruction.text.toList = instruction.opcode.toList ++
      Source.operandText (instruction.operands.map String.toList) := by
  unfold text
  cases instruction.operands with
  | nil => simp [Source.operandText]
  | cons token rest =>
    simp [Source.operandText, String.toList_intercalate]

end RegisterMachine
