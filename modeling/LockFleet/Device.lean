import LockFleet.Text.Hex

/-!
This module contains device identifiers. A device is named by its hardware address, and all spellings
of an address that have the same hexadecimal digits name the same device.
-/

namespace LockFleet

def isAddressDigit (c : Char) : Bool :=
  ('0' ≤ c && c ≤ '9') || ('A' ≤ c && c ≤ 'F')

def addressDigits (raw : List Char) : List Char :=
  (raw.filter Text.isHexDigit).map Char.toUpper

def normalAddress? (raw : String) : Option String :=
  let digits := addressDigits raw.toList
  if digits = [] then none else some (String.ofList digits)

structure DeviceId where
  text : String
  nonempty : text ≠ ""
  normal : ∀ c ∈ text.toList, isAddressDigit c = true
  deriving DecidableEq

theorem isAddressDigit_toUpper {c : Char} (h : Text.isHexDigit c = true) :
    isAddressDigit c.toUpper = true := by
  revert h
  apply Text.forall_char_of_ascii
    (p := fun c => Text.isHexDigit c = true → isAddressDigit c.toUpper = true)
  . decide +kernel
  . intro c hc h
    obtain ⟨n, hn⟩ := Option.isSome_iff_exists.1 h
    exact absurd (Text.lt_of_hexValue?_eq_some hn) (Nat.not_lt.2 hc)

theorem isAddressDigit_of_mem_addressDigits {raw : List Char} {c : Char}
    (h : c ∈ addressDigits raw) : isAddressDigit c = true := by
  simp only [addressDigits, List.mem_map, List.mem_filter] at h
  obtain ⟨d, ⟨_, hd⟩, rfl⟩ := h
  exact isAddressDigit_toUpper hd

namespace DeviceId

def ofText? (raw : String) : Option DeviceId :=
  if h : addressDigits raw.toList = [] then none
  else some {
    text := String.ofList (addressDigits raw.toList)
    nonempty := by
      intro e
      have := congrArg String.toList e
      simp at this
      exact h this
    normal := by
      intro c hc
      rw [String.toList_ofList] at hc
      exact isAddressDigit_of_mem_addressDigits hc
  }

instance : LT DeviceId :=
  ⟨fun a b => a.text < b.text⟩

instance (a b : DeviceId) : Decidable (a < b) :=
  inferInstanceAs (Decidable (a.text < b.text))

theorem ext {a b : DeviceId} (h : a.text = b.text) : a = b := by
  cases a; cases b; cases h; rfl

theorem lt_irrefl (a : DeviceId) : ¬a < a :=
  String.lt_irrefl a.text

theorem lt_trans {a b c : DeviceId} (h₁ : a < b) (h₂ : b < c) : a < c :=
  String.lt_trans h₁ h₂

theorem lt_of_not_lt {a b : DeviceId} (h : ¬a < b) (hne : a ≠ b) : b < a := by
  rcases Decidable.em (b < a) with hlt | hge
  · exact hlt
  · exact absurd (ext (String.le_antisymm hge h)) hne

end DeviceId
end LockFleet
