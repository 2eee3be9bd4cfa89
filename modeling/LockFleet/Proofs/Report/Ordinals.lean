import LockFleet.Proofs.Report.Language
import LockFleet.Proofs.Text.Decimal

/-!
This module contains the proof that the number in a message of the controller is taken at its value,
however many digits it has. A number that exceeds a machine word is the number of no state, just as any
other one above the greatest.
-/

namespace LockFleet

open Text (IsDigits dropPlus dropPlus_of_isNumeral isNumeral isNumeral_eq_true_iff number?_eq_ite
  numeralValue)

namespace FirmwareState

theorem lifecycleAt?_ordinal (s : FirmwareState) : lifecycleAt? s.ordinal = some s.lifecycle := by
  unfold lifecycleAt?
  rw [ofOrdinal?_ordinal]
  rfl

theorem lifecycleAt?_eq_none {n : Nat} (h : 8 ≤ n) : lifecycleAt? n = none := by
  unfold lifecycleAt? ofOrdinal?
  rw [List.getElem?_eq_none h]
  rfl

theorem exists_ordinal_eq {n : Nat} (h : n < 8) : ∃ s : FirmwareState, s.ordinal = n := by
  have hall : ∀ n < 8, ∃ s ∈ all, s.ordinal = n := by decide
  obtain ⟨s, _, hs⟩ := hall n h
  exact ⟨s, hs⟩

theorem lifecycleOfDigits?_eq_ite (text : List Char) :
    lifecycleOfDigits? text
      = if isNumeral (dropPlus text) = true then lifecycleAt? (numeralValue (dropPlus text))
        else none := by
  have hword : 8 ≤ maxWord := by decide
  unfold lifecycleOfDigits?
  rw [number?_eq_ite]
  split
  . split
    . rfl
    . next hover =>
      rw [lifecycleAt?_eq_none (by omega)]
      rfl
  . rfl

example : lifecycleOfDigits? [] = none ∧ lifecycleOfDigits? ['+', '5'] = some .booked := by
  decide

theorem lifecycleOfDigits?_of_isNumeral {digits : List Char} (h : isNumeral digits = true) :
    lifecycleOfDigits? digits = lifecycleAt? (numeralValue digits) := by
  rw [lifecycleOfDigits?_eq_ite, dropPlus_of_isNumeral h, if_pos h]

end FirmwareState

namespace StatusMessage

theorem state_report_of_lifecycle?_eq_some {m : StatusMessage} {s : LifecycleState}
    (h : m.lifecycle? = some s) : m.report.state = .known s := by
  unfold report
  rw [h]

theorem state_report_of_lifecycle?_eq_none {m : StatusMessage} (h : m.lifecycle? = none)
    (hcarries : m.carriesState = true) : m.report.state = .unresolved := by
  unfold report
  dsimp only
  rw [h, hcarries]
  rfl

theorem state_report_ne_silent {m : StatusMessage} (hcarries : m.carriesState = true) :
    m.report.state ≠ .silent := by
  cases h : m.lifecycle? with
  | none =>
    rw [state_report_of_lifecycle?_eq_none h hcarries]
    simp
  | some s =>
    rw [state_report_of_lifecycle?_eq_some h]
    simp

structure Tells (m : StatusMessage) (n : Nat) : Prop where
  known : ∀ s : FirmwareState, s.ordinal = n →
    m.lifecycle? = some s.lifecycle ∧ m.report.state = .known s.lifecycle
  inRange : n < 8 → ∃ s : FirmwareState, s.ordinal = n
  outOfRange : 8 ≤ n → m.lifecycle? = none ∧ m.report.state = .unresolved
  notSilent : m.report.state ≠ .silent

theorem tells_of_lifecycle?_eq {m : StatusMessage} {n : Nat}
    (h : m.lifecycle? = FirmwareState.lifecycleAt? n) (hcarries : m.carriesState = true) :
    m.Tells n := by
  constructor
  . rintro s rfl
    rw [FirmwareState.lifecycleAt?_ordinal] at h
    exact ⟨h, state_report_of_lifecycle?_eq_some h⟩
  . exact FirmwareState.exists_ordinal_eq
  . intro hn
    rw [FirmwareState.lifecycleAt?_eq_none hn] at h
    exact ⟨h, state_report_of_lifecycle?_eq_none h hcarries⟩
  . exact state_report_ne_silent hcarries

theorem ordinals_never_wrap {digits : String} (h : IsDigits digits) :
    (parse ("State changed to " ++ digits) = .ok (stateChanged digits) ∧
      (stateChanged digits).Tells (numeralValue digits.toList)) ∧
    (parse ("Current state: " ++ digits) = .ok (currentState digits) ∧
      (currentState digits).Tells (numeralValue digits.toList)) := by
  have hchanged : "State changed to " ++ digits = (stateChanged digits).text := rfl
  have hcurrent : "Current state: " ++ digits = (currentState digits).text := rfl
  have hnumeral : isNumeral digits.toList = true := isNumeral_eq_true_iff.2 h
  have hlifecycle := FirmwareState.lifecycleOfDigits?_of_isNumeral hnumeral
  rw [hchanged, hcurrent]
  constructor
  . have hproper : (stateChanged digits).IsProper := hnumeral
    exact ⟨parse_text hproper, tells_of_lifecycle?_eq hlifecycle rfl⟩
  . have hproper : (currentState digits).IsProper := hnumeral
    exact ⟨parse_text hproper, tells_of_lifecycle?_eq hlifecycle rfl⟩

theorem ordinals_never_wrap_zeros_and_overflow :
    IsDigits "0000005" ∧ IsDigits "18446744073709551621" ∧
      (stateChanged "0000005").report.state = .known .booked ∧
      (currentState "18446744073709551621").report.state = .unresolved := by
  have hzeros : IsDigits "0000005" := isNumeral_eq_true_iff.1 (by decide)
  have hover : IsDigits "18446744073709551621" := isNumeral_eq_true_iff.1 (by decide)
  refine ⟨hzeros, hover, ?_, ?_⟩
  . exact ((ordinals_never_wrap hzeros).1.2.known .booked (by decide)).2
  . exact ((ordinals_never_wrap hover).2.2.outOfRange (by decide)).2

end StatusMessage
end LockFleet
