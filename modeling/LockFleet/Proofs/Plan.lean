import LockFleet.Plan
import LockFleet.Proofs.Registry.Coherence

/-!
This module contains what is known of a command that may be sent: a command with a target for a device
in a known state asks for a transition of the table, and it carries the reason of that transition. The
decision depends on the content of the record alone.
-/

namespace LockFleet

def DeviceRecord.content (r : DeviceRecord) : String × Option LifecycleState :=
  (r.message, r.state)

namespace Transition

theorem check_eq_ok {current requested : LifecycleState} {reason : String}
    (h : check current requested = .ok reason) :
    current ≠ requested ∧ reason? current requested = some reason := by
  unfold check at h
  split at h
  . cases h
  . next hne =>
    split at h
    . next hreason =>
      cases h
      exact ⟨hne, hreason⟩
    . cases h

theorem allows_of_reason? {current requested : LifecycleState} {reason : String}
    (h : reason? current requested = some reason) : allows current requested = true := by
  obtain ⟨e, he, _⟩ := Option.map_eq_some_iff.1 h
  unfold allows
  rw [List.any_eq_true]
  have hto := List.find?_some he
  exact ⟨e, List.mem_of_find?_eq_some he, hto⟩

theorem checkLabels_of_ofLabel?_eq_none {current : String} (requested : String)
    (h : LifecycleState.ofLabel? current = none) :
    checkLabels current requested = .error (.unknownCurrent current requested) := by
  unfold checkLabels
  rw [h]

end Transition

namespace Plan

theorem checkKnown_eq_ok {id : DeviceId} {current target : LifecycleState} {c : Command}
    {reason : String} (h : checkKnown id current target c = .ok reason) :
    Transition.check current target = .ok reason ∧
      (c = .cancelReservation → current = .reserved) := by
  unfold checkKnown at h
  split at h
  . cases h
  . split at h
    . cases h
    . next hcheck =>
      split at h
      . cases h
      . next hcancel =>
        cases h
        refine ⟨hcheck, ?_⟩
        intro hc
        apply Decidable.byContradiction
        intro hne
        exact hcancel ⟨hc, hne⟩

theorem not_broken_of_checkKnown_eq_ok {id : DeviceId} {current target : LifecycleState}
    {c : Command} {reason : String} (h : checkKnown id current target c = .ok reason) :
    ¬(current = .broken ∧ c.needsWorkingLock = true) := by
  unfold checkKnown at h
  split at h
  . cases h
  . next hbroken => exact hbroken

theorem plan_of_state_eq_none {id : DeviceId} {r : DeviceRecord} {c : Command}
    {target : LifecycleState} (htarget : c.target? = some target) (hr : r.IsCoherent)
    (hstate : r.state = none) :
    plan id (some r) c
      = .error (.ofRejection id.text (.unknownCurrent r.message target.label)) := by
  unfold plan
  rw [htarget]
  dsimp
  unfold checkRecord
  rw [hstate]
  dsimp
  rw [Transition.checkLabels_of_ofLabel?_eq_none _ (hr hstate)]

theorem plan_of_state_eq_some {id : DeviceId} {r : DeviceRecord} {c : Command}
    {current target : LifecycleState} {a : Accepted} (htarget : c.target? = some target)
    (hstate : r.state = some current) (h : plan id (some r) c = .ok a) :
    ∃ reason, checkKnown id current target c = .ok reason ∧ a = ⟨id, c, some reason⟩ := by
  unfold plan at h
  rw [htarget] at h
  dsimp at h
  unfold checkRecord at h
  rw [hstate] at h
  dsimp at h
  split at h
  . next reason hcheck =>
    cases h
    exact ⟨reason, hcheck, rfl⟩
  . cases h

theorem exists_reason_of_plan_eq_ok {id : DeviceId} {record : Option DeviceRecord} {c : Command}
    {a : Accepted} (h : plan id record c = .ok a) : ∃ reason, a = ⟨id, c, reason⟩ := by
  unfold plan at h
  split at h
  . cases h
    exact ⟨none, rfl⟩
  . split at h
    . split at h
      . cases h
        exact ⟨none, rfl⟩
      . cases h
    . split at h
      . next reason _ =>
        cases h
        exact ⟨some reason, rfl⟩
      . cases h

theorem device_of_plan_eq_ok {id : DeviceId} {record : Option DeviceRecord} {c : Command}
    {a : Accepted} (h : plan id record c = .ok a) : a.device = id := by
  obtain ⟨reason, rfl⟩ := exists_reason_of_plan_eq_ok h
  rfl

theorem plan_eq_of_content_eq (id : DeviceId) {record record' : Option DeviceRecord} (c : Command)
    (h : record.map DeviceRecord.content = record'.map DeviceRecord.content) :
    plan id record c = plan id record' c := by
  unfold plan
  cases c.target? with
  | none => rfl
  | some target =>
    cases record with
    | none =>
      cases record' with
      | none => rfl
      | some r' => cases h
    | some r =>
      cases record' with
      | none => cases h
      | some r' =>
        obtain ⟨hmessage, hstate⟩ := Prod.mk.inj (Option.some.inj h)
        dsimp
        unfold checkRecord
        rw [hmessage, hstate]

end Plan
end LockFleet
