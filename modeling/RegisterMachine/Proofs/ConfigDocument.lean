import RegisterMachine.Config.Document
import RegisterMachine.Proofs.Integer
import RegisterMachine.Proofs.JsonWriting

/-!
What a configuration document means. The members with a meaning override the defaults, in whatever
order they stand, however their names are spelled and whatever stands beside them. So two documents
that give the same values describe the same configuration, or fail in the same way.
-/

namespace RegisterMachine.Config

open Json (Document decodeString?)

variable {members : List (List Char × Document)} {given : Member → Option Nat}

def override (config : Config) (given : Member → Option Nat) : Config where
  registerCount := (given .registerCount).getD config.registerCount
  memorySize := (given .memorySize).getD config.memorySize
  maxCycles := (given .maxCycles).getD config.maxCycles

def withValue (given : Member → Option Nat) (member : Member) (value : Nat) :
    Member → Option Nat :=
  fun other => if other = member then some value else given other

/-- The members of an object give these values: each meaningful name stands once at most and has a
plain integer of 64 bits. Any other name may have any value, and stand any number of times, but a
name has to denote a text. -/
inductive Gives : List (List Char × Document) → (Member → Option Nat) → Prop where
  | nil : Gives [] fun _ => none
  | setting {member : Member} {value : Nat} {key : List Char}
      {members : List (List Char × Document)} {given : Member → Option Nat} :
      decodeString? key = some member.key.toList → value < 0x10000000000000000 →
      given member = none → Gives members given →
      Gives ((key, .number (toString value).toList) :: members) (withValue given member value)
  | other {key name : List Char} {value : Document} {members : List (List Char × Document)}
      {given : Member → Option Nat} : decodeString? key = some name →
      (∀ member : Member, name ≠ member.key.toList) → Gives members given →
      Gives ((key, value) :: members) given

theorem withValue_self (given : Member → Option Nat) (member : Member) (value : Nat) :
    withValue given member value member = some value :=
  if_pos rfl

theorem withValue_of_ne {member other : Member} (h : other ≠ member) (value : Nat) :
    withValue given member value other = given other :=
  if_neg h

@[simp] theorem ofKey?_key (member : Member) : Member.ofKey? member.key.toList = some member := by
  cases member <;> decide

theorem ofKey?_eq_none {name : List Char} (h : ∀ member : Member, name ≠ member.key.toList) :
    Member.ofKey? name = none := by
  apply List.find?_eq_none.mpr
  intro member _ heq
  exact h member (beq_iff_eq.mp heq).symm

theorem word?_toString {value : Nat} (h : value < 0x10000000000000000) :
    word? (.number (toString value).toList) = some value := by
  obtain ⟨digits, hne, hdigits, htext, hvalue⟩ :=
    Text.exists_digits_toDigits (by decide : 1 < 10) value
  have hnumeral : Text.numeral? 10 (toString value).toList = some value := by
    rw [Nat.toString_eq_ofList_toDigits, String.toList_ofList, htext,
      Text.numeral?_map_digitChar (by decide) hne hdigits, hvalue]
  simp only [word?, hnumeral, if_pos h]

/-- Setting a value first and overriding the others then is overriding all of them. -/
theorem override_set {config : Config} {member : Member} (value : Nat) (h : given member = none) :
    (config.set member value).override given =
      config.override (withValue given member value) := by
  cases member <;> simp [set, override, withValue, h]

/-- Reading keeps in mind which members it has seen; none of them is given again. -/
theorem Gives.readMembers_eq (h : Gives members given) (config : Config) (seen : List Member)
    (hseen : ∀ member ∈ seen, given member = none) :
    readMembers config seen members = some (config.override given) := by
  induction h generalizing config seen with
  | nil => rfl
  | @setting member value key members given hkey hvalue hnew _ ih =>
    have hfresh : member ∉ seen := by
      intro hmember
      have hgiven := hseen member hmember
      rw [withValue_self] at hgiven
      cases hgiven
    have hrest : ∀ other ∈ member :: seen, given other = none := by
      intro other hother
      rcases List.mem_cons.mp hother with rfl | hold
      · exact hnew
      · have hne : other ≠ member := fun heq => hfresh (heq ▸ hold)
        exact (withValue_of_ne hne value).symm.trans (hseen other hold)
    have hcontains : ¬ seen.contains member = true := by
      rw [List.contains_iff_mem]
      exact hfresh
    simp only [readMembers, hkey, ofKey?_key, if_neg hcontains, word?_toString hvalue]
    rw [← override_set value hnew]
    exact ih _ _ hrest
  | other hkey hname _ ih =>
    simp only [readMembers, hkey, ofKey?_eq_none hname]
    exact ih config seen hseen

theorem Gives.ofDocument?_eq {text : List Char} (h : Gives members given)
    (htext : (Document.object members).Written text) :
    (Document.ofText? text).bind ofDocument? = some (override {} given) := by
  rw [htext.ofText?_eq, Option.bind_some, ofDocument?]
  exact h.readMembers_eq {} [] nofun

/-- An object gives the defaults with its known members in their place, whatever else it holds and
however it is laid out, or the reason why no machine has this configuration. Objects with the same
known members give the same. -/
theorem document_means_known_members {text : String} (h : Gives members given)
    (htext : (Document.object members).Written text.toList) :
    ((override {} given).validate = .ok () → ofText text = .ok (override {} given)) ∧
    (∀ fault, (override {} given).validate = .error fault →
      ofText text = .error (.invalid fault)) ∧
    ∀ (other : String) (others : List (List Char × Document)), Gives others given →
      (Document.object others).Written other.toList → ofText other = ofText text := by
  refine ⟨?_, ?_, ?_⟩
  · intro hvalid
    simp only [ofText, h.ofDocument?_eq htext, hvalid]
  · intro fault hfault
    simp only [ofText, h.ofDocument?_eq htext, hfault]
  · intro other others hothers hother
    simp only [ofText, h.ofDocument?_eq htext, hothers.ofDocument?_eq hother]

/-- A name may be spelled with escapes, and what is not asked for is passed over. -/
theorem document_means_escaped_member :
    ofText "\x7b\"x\": [null] ,\"\\u006dax_cycles\" : 9\x7d" = .ok { maxCycles := 9 } := by
  let name : List Char := ['a', 'x', '_', 'c', 'y', 'c', 'l', 'e', 's']
  let key : List Char := '\\' :: 'u' :: '0' :: '0' :: '6' :: 'd' :: name
  have hgives : Gives [(['x'], .array [.null]), (key, .number (toString 9).toList)]
      (withValue (fun _ => none) .maxCycles 9) := by
    have hkey : decodeString? key = some Member.maxCycles.key.toList := by decide
    have hother : ∀ member : Member, ['x'] ≠ member.key.toList := by
      intro member
      cases member <;> decide
    exact .other (by decide) hother (.setting hkey (by decide) rfl .nil)
  have hwritten : (Document.object [(['x'], .array [.null]), (key, .number ['9'])]).Written
      (['\x7b', '"', 'x', '"', ':', ' ', '[', 'n', 'u', 'l', 'l', ']', ' ', ',', '"'] ++ key ++
        ['"', ' ', ':', ' ', '9', '\x7d']) := by
    have hkey : Json.StringBody key := .code rfl (Json.stringBody_escaped name)
    have hnine : Json.NumberText ['9'] := Json.isNumber_numberText 9
    have hitem := Json.Phrase.Written.lastItem (.element Json.spaces_nil .null Json.spaces_nil)
    have hlast := Json.Phrase.Written.lastMember Json.spaces_nil hkey Json.spaces_blank
      (.element Json.spaces_blank (.number hnine) Json.spaces_nil)
    have hmembers := Json.Phrase.Written.members Json.spaces_nil
      (Json.stringBody_escaped ['x']) Json.spaces_nil
      (.element Json.spaces_blank (.array hitem) Json.spaces_blank) hlast
    exact .element Json.spaces_nil (.object hmembers) Json.spaces_nil
  have htext : "\x7b\"x\": [null] ,\"\\u006dax_cycles\" : 9\x7d".toList =
      ['\x7b', '"', 'x', '"', ':', ' ', '[', 'n', 'u', 'l', 'l', ']', ' ', ',', '"'] ++ key ++
        ['"', ' ', ':', ' ', '9', '\x7d'] := String.toList_ofList
  rw [← htext] at hwritten
  exact (document_means_known_members hgives hwritten).1 rfl

end RegisterMachine.Config
