import LockFleet.Text.Hex

/-!
This module contains the proof that hexadecimal digits of either case are read as the number that they
write.
-/

namespace LockFleet.Text

theorem toLower_of_le {c : Char} (h : 0x80 ≤ c.toNat) : c.toLower = c := by
  unfold Char.toLower
  apply dif_neg
  rintro ⟨-, hc⟩
  have : c.toNat ≤ 0x5A := hc
  omega

theorem toUpper_of_le {c : Char} (h : 0x80 ≤ c.toNat) : c.toUpper = c := by
  unfold Char.toUpper
  apply dif_neg
  rintro ⟨-, hc⟩
  have : c.toNat ≤ 0x7A := hc
  omega

theorem hexValue?_toLower (c : Char) : hexValue? c.toLower = hexValue? c := by
  apply forall_char_of_ascii (p := fun c => hexValue? c.toLower = hexValue? c)
  . decide
  . intro c hc
    rw [toLower_of_le hc]

theorem hexValue?_toUpper (c : Char) : hexValue? c.toUpper = hexValue? c := by
  apply forall_char_of_ascii (p := fun c => hexValue? c.toUpper = hexValue? c)
  . decide
  . intro c hc
    rw [toUpper_of_le hc]

theorem hexValue?_digitChar {n : Nat} (h : n < 16) : hexValue? (Nat.digitChar n) = some n := by
  have all : ∀ n < 16, hexValue? (Nat.digitChar n) = some n := by decide
  exact all n h

theorem hexNumber?_map {f : Char → Char} (h : ∀ c, hexValue? (f c) = hexValue? c)
    (digits : List Char) : hexNumber? (digits.map f) = hexNumber? digits := by
  unfold hexNumber?
  rw [List.foldlM_map]
  simp only [h]

theorem lt_of_hexNumber?_eq_some {digits : List Char} {n : Nat} (h : hexNumber? digits = some n) :
    ∀ c ∈ digits, c.toNat < 0x80 := by
  unfold hexNumber? at h
  generalize 0 = start at h
  induction digits generalizing start with
  | nil => simp
  | cons d digits ih =>
    rw [List.foldlM_cons] at h
    obtain ⟨next, hnext, hrest⟩ := Option.bind_eq_some_iff.1 h
    obtain ⟨value, hvalue, -⟩ := Option.map_eq_some_iff.1 hnext
    intro c hc
    rcases List.mem_cons.1 hc with rfl | hc
    . exact lt_of_hexValue?_eq_some hvalue
    . exact ih next hrest c hc

theorem hexNumber?_hexDigits {width n : Nat} (h : n < Nat.pow 16 width) :
    hexNumber? (hexDigits width n) = some n := by
  unfold hexNumber?
  induction width generalizing n with
  | zero =>
    rw [Nat.lt_one_iff.1 h]
    rfl
  | succ width ih =>
    have hpow : Nat.pow 16 (width + 1) = Nat.pow 16 width * 16 := rfl
    unfold hexDigits
    rw [List.foldlM_append, ih (by omega)]
    simp [hexValue?_digitChar (Nat.mod_lt n (by decide))]
    omega

end LockFleet.Text
