import LockFleet.Proofs.Json.Machine

/-!
This module contains the proof that an integer of 64 bits is read as its shortest numeral is written.
-/

namespace LockFleet.Json

namespace Numeral

def whole (negative : Bool) (n : Nat) : Numeral :=
  ⟨if n = 0 then .zero else .whole, negative, n, 0, false, 0⟩

def digitOctet (d : Nat) : UInt8 :=
  UInt8.ofNat (Nat.digitChar d).toNat

theorem digit?_digitOctet {d : Nat} (h : d < 10) : digit? (digitOctet d) = some d := by
  have all : ∀ d < 10, digit? (digitOctet d) = some d := by decide
  exact all d h

theorem whole_of_ne {n : Nat} (h : n ≠ 0) (negative : Bool) :
    whole negative n = ⟨.whole, negative, n, 0, false, 0⟩ := by
  unfold whole
  rw [if_neg h]

theorem step_whole {n d : Nat} (hn : n ≠ 0) (hd : d < 10) (hbound : 10 * n + d ≤ maxWord)
    (negative : Bool) :
    (whole negative n).step false (digitOctet d) = .more (whole negative (10 * n + d)) := by
  rw [whole_of_ne hn, whole_of_ne (by omega)]
  unfold step
  rw [digit?_digitOctet hd]
  dsimp only
  unfold addWhole
  dsimp only
  rw [if_pos hbound]

def isOpen (n : Numeral) : Bool :=
  match n.stage with
  | .sign | .point | .letter | .exponentSign => true
  | _ => false

theorem step_of_isDelimiter {octet : UInt8} (h : State.isDelimiter octet = true) (skim : Bool)
    (n : Numeral) :
    n.step skim octet = if n.isOpen then .fault .invalidNumber else .ended := by
  have hoctet : digit? octet = none ∧ octet ≠ 0x2E ∧ octet ≠ 0x2B ∧ octet ≠ 0x2D ∧
      isExponentLetter octet = false := by
    unfold State.isDelimiter State.isSpace at h
    simp only [Bool.or_eq_true, beq_iff_eq, or_assoc] at h
    rcases h with rfl | rfl | rfl | rfl | rfl | rfl | rfl <;> decide
  obtain ⟨hdigit, hpoint, hplus, hminus, hletter⟩ := hoctet
  unfold step isOpen
  rw [hdigit]
  cases n.stage <;> simp [afterWhole, afterFraction, hpoint, hplus, hminus, hletter]

theorem isOpen_whole (negative : Bool) (n : Nat) : (whole negative n).isOpen = false := by
  cases n <;> rfl

theorem step_delimiter {octet : UInt8} (h : State.isDelimiter octet = true) (negative : Bool)
    (n : Nat) : (whole negative n).step false octet = .ended := by
  rw [step_of_isDelimiter h, isOpen_whole, if_neg Bool.false_ne_true]

theorem valueOr_of_isOpen {n : Numeral} (h : n.isOpen = true) (skim : Bool) :
    n.valueOr skim = .error .endInValue := by
  unfold isOpen at h
  unfold valueOr value
  cases hstage : n.stage <;> simp [hstage] at h ⊢

theorem value_whole_false (n : Nat) : (whole false n).value = .ok (.integer n) := by
  rcases Nat.eq_zero_or_pos n with rfl | hn
  . rfl
  . rw [whole_of_ne (by omega)]
    rfl

theorem value_whole_true {n : Nat} (hn : n ≠ 0) (hbound : n ≤ maxSigned + 1) :
    (whole true n).value = .ok (.integer (-n)) := by
  rw [whole_of_ne hn]
  unfold value
  dsimp only
  rw [if_neg (by decide), if_pos (by omega)]

theorem value_whole {n : Int} (hleast : -(maxSigned + 1) ≤ n) :
    (whole (n < 0) n.natAbs).value = .ok (.integer n) := by
  by_cases hn : n < 0
  . rw [decide_eq_true hn, value_whole_true (by omega) (by omega)]
    congr 2
    omega
  . rw [decide_eq_false hn, value_whole_false]
    congr 2
    omega

theorem valueOr_whole {n : Int} (hleast : -(maxSigned + 1) ≤ n) :
    (whole (n < 0) n.natAbs).valueOr false = .ok (.integer n) := by
  unfold valueOr
  rw [value_whole hleast]

end Numeral

open Numeral (digitOctet whole)

variable {s : State} {frames : List Frame} {negative : Bool}

theorem State.next?_number {n m : Numeral} {octet : UInt8} (h : n.step false octet = .more m) :
    State.next? ⟨frames, .number n⟩ octet = some ⟨frames, .number m⟩ := by
  unfold State.next? State.step
  dsimp only
  rw [h]
  rfl

theorem State.read?_numeral (hstart : ∀ d < 10, s.next? (digitOctet d)
      = some ⟨frames, .number (.ofDigit negative d)⟩) {n : Nat} (hn : n ≤ maxWord) :
    s.read? (Text.numeral n) = some ⟨frames, .number (whole negative n)⟩ := by
  have hascii : ∀ d < 10, (Nat.digitChar d).toNat < 0x80 := by decide
  induction n using Nat.strongRecOn with
  | ind n ih =>
    unfold Text.numeral at ih ⊢
    rcases Nat.lt_or_ge n 10 with hlt | hge
    . rw [Nat.toDigits_of_lt_base hlt, State.read?_cons (hascii n hlt)]
      exact Option.bind_eq_some_iff.2 ⟨_, hstart n hlt, rfl⟩
    . have hd : n % 10 < 10 := Nat.mod_lt n (by decide)
      have hn' : 10 * (n / 10) + n % 10 = n := by omega
      rw [Nat.toDigits_of_base_le (by decide) hge, State.read?_append,
        ih (n / 10) (by omega) (by omega), Option.bind_some, State.read?_cons (hascii _ hd)]
      have hstep := Numeral.step_whole (n := n / 10) (by omega) hd (by omega) negative
      rw [hn'] at hstep
      exact Option.bind_eq_some_iff.2 ⟨_, State.next?_number hstep, rfl⟩

theorem State.beginValue_digit {d : Nat} (hd : d < 10) (frames : List Frame) :
    State.beginValue (fun _ => false) frames (digitOctet d)
      = .ok ⟨frames, .number (.ofDigit false d)⟩ := by
  have hchar : ∀ d < 10, Char.ofNat (digitOctet d).toNat ∉ ['n', 't', 'f', '-', '"', '[', '\x7b'] := by
    decide
  have hother := hchar d hd
  unfold State.beginValue
  split
  case h_8 => rw [Numeral.digit?_digitOctet hd]
  all_goals
    next h =>
    rw [h] at hother
    exact absurd hother (by decide)

theorem State.IsReady.next?_digit (h : s.IsReady) {d : Nat} (hd : d < 10) :
    s.next? (digitOctet d) = some ⟨s.frames, .number (.ofDigit false d)⟩ := by
  have hoctet : ∀ d < 10, State.isSpace (digitOctet d) = false ∧ digitOctet d ≠ 0x5D := by decide
  obtain ⟨hspace, hbracket⟩ := hoctet d hd
  rw [h.next?_eq hspace hbracket]
  rw [State.beginValue_digit hd]
  rfl

theorem State.next?_afterSign {d : Nat} (hd : d < 10) :
    State.next? ⟨frames, .number .afterSign⟩ (digitOctet d)
      = some ⟨frames, .number (.ofDigit true d)⟩ := by
  apply State.next?_number
  unfold Numeral.step
  rw [Numeral.digit?_digitOctet hd]
  rfl

theorem State.completes_number {n : Int} (hleast : -(maxSigned + 1) ≤ n) :
    State.Completes frames (.integer n) ⟨frames, .number (whole (n < 0) n.natAbs)⟩ := by
  have hvalue := Numeral.valueOr_whole hleast
  constructor
  . intro octet hoctet
    unfold State.next? State.step
    dsimp only
    rw [Numeral.step_delimiter hoctet]
    dsimp only
    rw [hvalue]
  . rintro rfl
    unfold State.finish
    dsimp only
    rw [hvalue]
    rfl

theorem State.IsReady.exists_read?_integer (h : s.IsReady) {n : Int} (hleast : -(maxSigned + 1) ≤ n)
    (hmost : n ≤ maxWord) :
    ∃ s', s.read? (Text.integerText n) = some s' ∧ State.Completes s.frames (.integer n) s' := by
  have hbound : n.natAbs ≤ maxWord := by
    have : maxSigned + 1 ≤ maxWord := by decide
    omega
  refine ⟨_, ?_, State.completes_number hleast⟩
  unfold Text.integerText
  split
  . next hn =>
    have hsign : s.next? (UInt8.ofNat '-'.toNat) = some ⟨s.frames, .number .afterSign⟩ := by
      rw [h.next?_eq (by decide) (by decide)]
      rfl
    rw [State.read?_cons (by decide), hsign, Option.bind_some,
      State.read?_numeral (fun d hd => State.next?_afterSign hd) hbound]
    simp [hn]
  . next hn =>
    rw [State.read?_numeral (fun d hd => h.next?_digit hd) hbound]
    simp [hn]

end LockFleet.Json
