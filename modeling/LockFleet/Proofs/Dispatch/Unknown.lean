import LockFleet.Dispatch.Basic
import LockFleet.Proofs.Plan

/-!
This module contains the proof that a device whose state is not known takes no command that changes its
state. Its last message is looked at in place of its state, and this message is never the label of one,
so the checks that only a known state is put to cannot be passed by.
-/

namespace LockFleet

theorem DeviceRecord.IsCoherent.assume {r : DeviceRecord} (hr : r.IsCoherent)
    (p : Option Pending) : (Pending.assume p r).IsCoherent := by
  unfold Pending.assume
  cases Pending.current? p (some r) with
  | none => exact hr
  | some p =>
    intro hstate
    cases hstate

namespace Plan

def RefusesUnknown (r : DeviceRecord) : Prop :=
  r.state = none →
    LifecycleState.ofLabel? r.message = none ∧
    ∀ (id : DeviceId) (c : Command) (target : LifecycleState), c.target? = some target →
      ∃ refusal, plan id (some r) c = .error refusal ∧
        refusal.code = "INVALID_STATE_TRANSITION" ∧
        refusal.message = "Unknown current state: " ++ r.message ∧
        ∃ reason, refusal
          = .invalidTransition refusal.message r.message target.label [] reason

/--
Whether no command is accepted in view of the last message of a record alone: a command with a target
is only accepted in a known state, in which it has passed the checks for a broken lock and for a
reservation.
-/
def NeedsKnownState (r : DeviceRecord) : Prop :=
  (r.state = none → ∀ requested reason, Transition.checkLabels r.message requested ≠ .ok reason) ∧
  ∀ (id : DeviceId) (c : Command) (target : LifecycleState) (a : Accepted),
    c.target? = some target → plan id (some r) c = .ok a →
      ∃ current, r.state = some current ∧ ¬(current = .broken ∧ c.needsWorkingLock = true) ∧
        (c = .cancelReservation → current = .reserved)

variable {r : DeviceRecord}

theorem refusesUnknown_of_isCoherent (hr : r.IsCoherent) : RefusesUnknown r := by
  intro hstate
  refine ⟨hr hstate, ?_⟩
  intro id c target htarget
  exact ⟨_, plan_of_state_eq_none htarget hr hstate, rfl, rfl, Transition.unknownCurrentReason, rfl⟩

theorem needsKnownState_of_isCoherent (hr : r.IsCoherent) : NeedsKnownState r := by
  constructor
  . intro hstate requested reason hcheck
    rw [Transition.checkLabels_of_ofLabel?_eq_none requested (hr hstate)] at hcheck
    cases hcheck
  . intro id c target a htarget hplan
    cases hstate : r.state with
    | none =>
      rw [plan_of_state_eq_none htarget hr hstate] at hplan
      cases hplan
    | some current =>
      obtain ⟨reason, hknown, _⟩ := plan_of_state_eq_some htarget hstate hplan
      exact ⟨current, rfl, not_broken_of_checkKnown_eq_ok hknown, (checkKnown_eq_ok hknown).2⟩

end Plan

namespace Registry

theorem unknown_state_refused {g : Registry} (hg : g.Reachable) {id : DeviceId}
    {r : DeviceRecord} (hr : g.get? id = some r) :
    Plan.RefusesUnknown r ∧ ∀ p : Option Pending, Plan.NeedsKnownState (Pending.assume p r) := by
  have hcoherent := hg.isCoherent id r hr
  refine ⟨Plan.refusesUnknown_of_isCoherent hcoherent, ?_⟩
  intro p
  exact Plan.needsKnownState_of_isCoherent (hcoherent.assume p)

def outOfRange (id : DeviceId) : List Event :=
  [ .observe ⟨0, 0⟩ id BookingMessage.available.report,
    .apply ⟨1, 0⟩ id (StatusMessage.stateChanged "18446744073709551616").report (.clamp 5),
    .ingest ⟨1, 0⟩ "esp/status/aa" "ESP32 online" none,
    -- This report comes in late.
    .apply ⟨1, 0⟩ id BookingMessage.available.report (.clamp 4) ]

theorem unknown_state_refused_outOfRange :
    ∃ id r, (empty.run (outOfRange id)).get? id = some r ∧
      r.state = none ∧ r.message = "ESP32 online" ∧
      Plan.RefusesUnknown r ∧ ∀ p : Option Pending, Plan.NeedsKnownState (Pending.assume p r) := by
  have hevents : ∀ id, ∀ e ∈ outOfRange id, e.FromMessage := by
    intro id e he
    simp only [outOfRange, List.mem_cons, List.not_mem_nil, or_false] at he
    rcases he with rfl | rfl | rfl | rfl
    . exact ⟨.booking .available, rfl⟩
    . exact ⟨.status (.stateChanged "18446744073709551616"), rfl⟩
    . trivial
    . exact ⟨.booking .available, rfl⟩
  let id := (DeviceId.ofText? "aa").get rfl
  have hr : (empty.run (outOfRange id)).get? id
      = some ⟨"ESP32 online", none, .clamp 6, ⟨1, 0⟩⟩ := by decide +kernel
  exact ⟨id, _, hr, rfl, rfl, unknown_state_refused ⟨outOfRange id, hevents id, rfl⟩ hr⟩

end Registry
end LockFleet
