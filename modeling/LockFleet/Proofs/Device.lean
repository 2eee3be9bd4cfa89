import LockFleet.Device
import LockFleet.Proofs.Text.Hex

/-!
This module contains what an address is made of. It is the hexadecimal digits of a text in upper case, so
texts name the same device if and only if the values of their digits are the same.
-/

namespace LockFleet

theorem isHexDigit_and_toUpper_of_isAddressDigit {c : Char} (h : isAddressDigit c = true) :
    Text.isHexDigit c = true ∧ c.toUpper = c := by
  revert h
  apply Text.forall_char_of_ascii
    (p := fun c => isAddressDigit c = true → Text.isHexDigit c = true ∧ c.toUpper = c)
  . decide
  . intro c hc h
    simp only [isAddressDigit, Bool.or_eq_true, Bool.and_eq_true, decide_eq_true_eq] at h
    rcases h with ⟨_, h⟩ | ⟨_, h⟩
    . have : c.toNat ≤ '9'.toNat := h
      exact absurd (Nat.le_trans hc this) (by decide)
    . have : c.toNat ≤ 'F'.toNat := h
      exact absurd (Nat.le_trans hc this) (by decide)

theorem addressDigits_of_isAddressDigit {digits : List Char}
    (h : ∀ c ∈ digits, isAddressDigit c = true) : addressDigits digits = digits := by
  have hfilter : digits.filter Text.isHexDigit = digits := by
    rw [List.filter_eq_self]
    intro c hc
    exact (isHexDigit_and_toUpper_of_isAddressDigit (h c hc)).1
  have hmap : digits.map Char.toUpper = digits.map id := by
    apply List.map_congr_left
    intro c hc
    exact (isHexDigit_and_toUpper_of_isAddressDigit (h c hc)).2
  unfold addressDigits
  rw [hfilter, hmap, List.map_id]

def digitValues (raw : List Char) : List Nat :=
  raw.filterMap Text.hexValue?

theorem digitValues_eq_nil_iff {raw : List Char} :
    digitValues raw = [] ↔ ∀ c ∈ raw, Text.isHexDigit c = false := by
  unfold digitValues Text.isHexDigit
  rw [List.filterMap_eq_nil_iff]
  simp only [Option.isSome_eq_false_iff, Option.isNone_iff_eq_none]

def digitOfValue (n : Nat) : Char :=
  (Nat.digitChar n).toUpper

theorem map_digitOfValue_hexValue? (c : Char) :
    (Text.hexValue? c).map digitOfValue
      = if Text.isHexDigit c = true then some c.toUpper else none := by
  apply Text.forall_char_of_ascii
    (p := fun c => (Text.hexValue? c).map digitOfValue
      = if Text.isHexDigit c = true then some c.toUpper else none)
  . decide +kernel
  . intro c hc
    have hnone : Text.hexValue? c = none := by
      rw [Option.eq_none_iff_forall_ne_some]
      intro n hn
      have := Text.lt_of_hexValue?_eq_some hn
      omega
    simp [Text.isHexDigit, hnone]

theorem addressDigits_eq_map_digitValues (raw : List Char) :
    addressDigits raw = (digitValues raw).map digitOfValue := by
  unfold addressDigits digitValues
  rw [List.map_filterMap, ← List.filterMap_eq_map, List.filterMap_filter]
  simp only [map_digitOfValue_hexValue?]
  rfl

theorem addressDigits_eq_nil_iff {raw : List Char} :
    addressDigits raw = [] ↔ ∀ c ∈ raw, Text.isHexDigit c = false := by
  rw [addressDigits_eq_map_digitValues, List.map_eq_nil_iff, digitValues_eq_nil_iff]

theorem normalAddress?_eq_none_iff {raw : String} :
    normalAddress? raw = none ↔ ∀ c ∈ raw.toList, Text.isHexDigit c = false := by
  rw [← addressDigits_eq_nil_iff]
  unfold normalAddress?
  simp

theorem digitValues_addressDigits (raw : List Char) :
    digitValues (addressDigits raw) = digitValues raw := by
  unfold addressDigits digitValues
  rw [List.filterMap_map, List.filterMap_filter]
  congr
  funext c
  simp only [Function.comp_apply, Text.hexValue?_toUpper]
  split
  . rfl
  . next h => exact (Option.not_isSome_iff_eq_none.1 h).symm

theorem addressDigits_eq_iff {raw raw' : List Char} :
    addressDigits raw = addressDigits raw' ↔ digitValues raw = digitValues raw' := by
  constructor
  . intro h
    rw [← digitValues_addressDigits raw, h, digitValues_addressDigits]
  . intro h
    rw [addressDigits_eq_map_digitValues, h, ← addressDigits_eq_map_digitValues]

namespace DeviceId

theorem toList_text_ne_nil (id : DeviceId) : id.text.toList ≠ [] := by
  intro h
  exact id.nonempty (String.toList_eq_nil_iff.1 h)

theorem slash_not_mem_text (id : DeviceId) : '/' ∉ id.text.toList := by
  intro h
  have := id.normal _ h
  revert this
  decide

theorem ofText?_eq_none_iff {raw : String} :
    ofText? raw = none ↔ ∀ c ∈ raw.toList, Text.isHexDigit c = false := by
  rw [← addressDigits_eq_nil_iff]
  unfold ofText?
  split
  . next h => simp [h]
  . next h => simp [h]

theorem ofText?_eq_some_iff {raw : String} {id : DeviceId} :
    ofText? raw = some id ↔ id.text.toList = addressDigits raw.toList := by
  unfold ofText?
  split
  . next hnil =>
    rw [hnil]
    simp [id.toList_text_ne_nil]
  . next hdigits =>
    rw [Option.some_inj]
    constructor
    . rintro rfl
      exact String.toList_ofList
    . intro h
      apply ext
      dsimp
      rw [← h, String.ofList_toList]

theorem ofText?_text (id : DeviceId) : ofText? id.text = some id := by
  rw [ofText?_eq_some_iff, addressDigits_of_isAddressDigit id.normal]

theorem normalAddress?_eq_of_ofText? {raw : String} {id : DeviceId}
    (h : ofText? raw = some id) : normalAddress? raw = some id.text := by
  unfold normalAddress?
  rw [← ofText?_eq_some_iff.1 h]
  simp [id.toList_text_ne_nil]

theorem normalAddress?_text (id : DeviceId) : normalAddress? id.text = some id.text :=
  normalAddress?_eq_of_ofText? id.ofText?_text

theorem exists_ofText?_eq_some {raw : String}
    (h : ∃ c ∈ raw.toList, Text.isHexDigit c = true) : ∃ id, ofText? raw = some id := by
  rw [← Option.ne_none_iff_exists']
  intro hnone
  obtain ⟨c, hmem, hhex⟩ := h
  rw [ofText?_eq_none_iff.1 hnone c hmem] at hhex
  cases hhex

end DeviceId
end LockFleet
