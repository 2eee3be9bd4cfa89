import LockFleet.Json.Printer
import LockFleet.Proofs.Json.Reading
import LockFleet.Proofs.Json.Skimming

/-!
This module contains the proof that a value without real numbers is read of the text that it is printed
as.
-/

namespace LockFleet.Json

mutual

def isIntegral : Json → Bool
  | integer n => -(maxSigned + 1) ≤ n && n ≤ maxWord
  | real _ => false
  | array items => areIntegral items
  | object members => haveIntegral members
  | _ => true
termination_by structural v => v

def areIntegral : List Json → Bool
  | [] => true
  | v :: rest => isIntegral v && areIntegral rest
termination_by structural items => items

def haveIntegral : List (String × Json) → Bool
  | [] => true
  | m :: rest => hasIntegral m && haveIntegral rest
termination_by structural members => members

def hasIntegral : String × Json → Bool
  | (_, v) => isIntegral v
termination_by structural m => m

end

theorem areIntegral_eq_true_iff {items : List Json} :
    areIntegral items = true ↔ ∀ v ∈ items, v.isIntegral = true := by
  induction items with
  | nil => simp [areIntegral]
  | cons v rest ih => simp [areIntegral, ih]

theorem isUnit_hexDigits {n : Nat} (h : n < 0x20) : IsUnit n (Text.hexDigits 4 n) := by
  have hlower : ∀ n < 0x20, (Text.hexDigits 4 n).map Char.toLower = Text.hexDigits 4 n := by decide
  exact ⟨Nat.lt_trans h (by decide), hlower n h⟩

theorem spellsChar_printChar (c : Char) : SpellsChar c (printChar c) := by
  unfold printChar
  split
  case h_8 hquote hbackslash _ _ _ _ _ =>
    split
    . next hcontrol => exact .unit (isUnit_hexDigits hcontrol)
    . next hcontrol => exact .raw (Nat.le_of_not_lt hcontrol) hquote hbackslash
  all_goals exact .short (by decide)

theorem spellsChars_flatMap (text : List Char) : SpellsChars text (text.flatMap printChar) := by
  induction text with
  | nil => exact .nil
  | cons c rest ih => exact .cons (spellsChar_printChar c) ih

theorem spellsString_printString (s : String) : SpellsString s (printString s) :=
  .quoted (spellsChars_flatMap s.toList)

theorem isBlank_nil : IsBlank [] :=
  nofun

mutual

theorem readsAs_print : (v : Json) → v.isIntegral = true → ReadsAs v v.print
  | .null, _ => readsAs_null
  | .bool true, _ => readsAs_true
  | .bool false, _ => readsAs_false
  | .integer n, h => by
    rw [isIntegral, Bool.and_eq_true, decide_eq_true_eq, decide_eq_true_eq] at h
    exact readsAs_integer h.1 h.2
  | .real x, h => by cases h
  | .string s, _ => readsAs_string (spellsString_printString s)
  | .array [], _ => readsAs_emptyArray isBlank_nil
  | .array (v :: rest), h => readsAs_array (itemsReadAs_print (v :: rest) h (List.cons_ne_nil v rest))
  | .object [], _ => readsAs_emptyObject isBlank_nil
  | .object (m :: rest), h =>
    readsAs_object (membersReadAs_print (m :: rest) h (List.cons_ne_nil m rest))

theorem itemsReadAs_print : (items : List Json) → areIntegral items = true → items ≠ [] →
    ItemsReadAs items (commaSeparated (printItems items))
  | [], _, hne => absurd rfl hne
  | [v], h, _ => itemsReadAs_single (readsAs_print v (Bool.and_eq_true_iff.1 h).1)
  | v :: next :: rest, h, _ =>
    itemsReadAs_cons (readsAs_print v (Bool.and_eq_true_iff.1 h).1)
      (itemsReadAs_print (next :: rest) (Bool.and_eq_true_iff.1 h).2 (List.cons_ne_nil next rest))

theorem memberReadAs_print : (m : String × Json) → hasIntegral m = true →
    MemberReadAs m (printMember m)
  | (name, v), h => by
    have hname := spellsString_printString name
    have hmember := memberReadAs isBlank_nil hname isBlank_nil (readsAs_print v h)
    rwa [List.nil_append, List.append_nil] at hmember

theorem membersReadAs_print : (members : List (String × Json)) → haveIntegral members = true →
    members ≠ [] → MembersReadAs members (commaSeparated (printMembers members))
  | [], _, hne => absurd rfl hne
  | [m], h, _ => membersReadAs_single (memberReadAs_print m (Bool.and_eq_true_iff.1 h).1)
  | m :: next :: rest, h, _ =>
    membersReadAs_cons (memberReadAs_print m (Bool.and_eq_true_iff.1 h).1)
      (membersReadAs_print (next :: rest) (Bool.and_eq_true_iff.1 h).2 (List.cons_ne_nil next rest))

end

theorem read_print {v : Json} (h : v.isIntegral = true) (hdepth : v.depth ≤ State.maxDepth) :
    read (Utf8.encode v.print) = .ok v :=
  (read_of_readsAs (readsAs_print v h)).1 hdepth

theorem readShape_print {s : Shape} {v : Json} (hkeeps : s.Keeps v) (h : v.isIntegral = true)
    (hdepth : v.depth ≤ State.maxDepth) : readShape s (Utf8.encode v.print) = .ok v := by
  obtain ⟨v', hread, hagrees⟩ := exists_readShape_eq_ok (read_print h hdepth) s
  rw [hread, hkeeps v' hagrees]

end LockFleet.Json
