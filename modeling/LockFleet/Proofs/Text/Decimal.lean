import LockFleet.Text.Decimal
import LockFleet.Word

/-!
This module contains what the numeral of a number is made of: at least one digit, and nothing but digits.
With zeros in front it is still a numeral of the number, and is as long as it should be.
-/

namespace LockFleet.Text

variable {n : Nat}

theorem isDigit_of_mem_numeral {c : Char} (h : c ∈ numeral n) : c.isDigit = true :=
  Nat.isDigit_of_mem_toDigits (by decide) (by decide) h

theorem numeral_ne_nil (n : Nat) : numeral n ≠ [] :=
  List.ne_nil_of_length_pos Nat.length_toDigits_pos

theorem isNumeral_numeral (n : Nat) : isNumeral (numeral n) = true := by
  unfold isNumeral
  rw [Bool.and_eq_true, Bool.not_eq_true', List.isEmpty_eq_false_iff, List.all_eq_true]
  exact ⟨numeral_ne_nil n, fun c => isDigit_of_mem_numeral⟩

theorem not_mem_numeral {c : Char} (h : c.isDigit = false) : c ∉ numeral n := by
  intro hmem
  rw [isDigit_of_mem_numeral hmem] at h
  cases h

variable {width : Nat}

theorem isDigit_of_mem_paddedNumeral {c : Char} (h : c ∈ paddedNumeral width n) :
    c.isDigit = true := by
  rcases List.mem_append.1 h with h | h
  . rw [List.eq_of_mem_replicate h]
    rfl
  . exact isDigit_of_mem_numeral h

theorem paddedNumeral_ne_nil (width n : Nat) : paddedNumeral width n ≠ [] :=
  List.append_ne_nil_of_right_ne_nil _ (numeral_ne_nil n)

theorem length_paddedNumeral (hwidth : 0 < width) (h : n < tenTo width) :
    (paddedNumeral width n).length = width := by
  have hlength : (numeral n).length ≤ width := (Nat.length_toDigits_le_iff (by decide) hwidth).2 h
  unfold paddedNumeral
  rw [List.length_append, List.length_replicate, Nat.sub_add_cancel hlength]

theorem numeralValue_replicate (count : Nat) : numeralValue (List.replicate count '0') = 0 := by
  induction count with
  | zero => rfl
  | succ count ih =>
    rw [List.replicate_succ]
    exact ih

theorem numeralValue_paddedNumeral (width n : Nat) : numeralValue (paddedNumeral width n) = n := by
  have hzeros := numeralValue_replicate (width - (numeral n).length)
  unfold numeralValue at hzeros
  unfold paddedNumeral numeralValue
  rw [Nat.ofDigitChars_append, hzeros]
  exact numeralValue_numeral n

theorem dropPlus_eq_self {text : List Char} (h : '+' ∉ text) : dropPlus text = text := by
  unfold dropPlus
  split
  . exact absurd List.mem_cons_self h
  . rfl

theorem dropPlus_of_isNumeral {digits : List Char} (h : isNumeral digits = true) :
    dropPlus digits = digits := by
  apply dropPlus_eq_self
  intro hmem
  rw [isNumeral, Bool.and_eq_true, List.all_eq_true] at h
  exact absurd (h.2 _ hmem) (by decide)

theorem le_ofDigitChars (digits : List Char) (n : Nat) : n ≤ Nat.ofDigitChars 10 digits n := by
  rw [Nat.ofDigitChars_eq_ofDigitChars_zero]
  have hle : n ≤ 10 ^ digits.length * n := Nat.le_mul_of_pos_left n (Nat.pow_pos (by decide))
  omega

theorem foldlM_pushDigit? {bound start : Nat} (digits : List Char) (hstart : start ≤ bound) :
    digits.foldlM (pushDigit? bound) start
      = if Nat.ofDigitChars 10 digits start ≤ bound then some (Nat.ofDigitChars 10 digits start)
        else none := by
  induction digits generalizing start with
  | nil => rw [List.foldlM_nil, Nat.ofDigitChars_nil, if_pos hstart]; rfl
  | cons c digits ih =>
    rw [List.foldlM_cons, Nat.ofDigitChars_cons]
    unfold pushDigit?
    dsimp only
    split
    . next hfits => exact ih hfits
    . next hover =>
      -- The digits that are left only make the number greater.
      have hle := le_ofDigitChars digits (10 * start + (c.toNat - '0'.toNat))
      rw [if_neg (by omega)]
      rfl

theorem number?_eq_ite (bound : Nat) (text : List Char) :
    number? bound text
      = if isNumeral (dropPlus text) = true then
          if numeralValue (dropPlus text) ≤ bound then some (numeralValue (dropPlus text)) else none
        else none := by
  unfold number?
  dsimp only
  rw [foldlM_pushDigit? _ (Nat.zero_le bound)]
  rfl

end LockFleet.Text
