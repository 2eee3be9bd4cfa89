import LockFleet.Proofs.Registry.Delivery
import LockFleet.Proofs.Report

/-!
This module contains the proof that a device whose state is not known never has the label of a state as
its last message, as long as all reports are such as a lock can make.
-/

namespace LockFleet

theorem DeviceMessage.ofLabel?_message_eq_none {m : DeviceMessage}
    (h : ∀ s, m.report.state ≠ .known s) : LifecycleState.ofLabel? m.report.message = none := by
  cases m with
  | status m =>
    apply StatusMessage.ofLabel?_text_eq_none
    rintro s rfl
    exact h s rfl
  | booking m => exact absurd rfl (h m.lifecycle)
  | maintenance m => exact absurd rfl (h m.lifecycle)

def DeviceRecord.IsCoherent (r : DeviceRecord) : Prop :=
  r.state = none → LifecycleState.ofLabel? r.message = none

namespace Registry

def IsCoherent (g : Registry) : Prop :=
  ∀ id r, g.get? id = some r → r.IsCoherent

theorem isCoherent_empty : empty.IsCoherent := by
  intro id r hr
  cases hr

theorem IsCoherent.step {g : Registry} (h : g.IsCoherent) {e : Event} (he : e.FromMessage) :
    (g.step e).IsCoherent := by
  cases hx : g.recording? e with
  | none => rwa [step_of_recording?_eq_none hx]
  | some x =>
    rw [step_of_recording? hx]
    intro id r hr
    rw [get?_record] at hr
    split at hr
    . obtain ⟨m, hm⟩ := exists_message_of_recording? he hx
      cases hr
      intro hstate
      unfold recordAfter at hstate ⊢
      dsimp at hstate ⊢
      rw [hm] at hstate ⊢
      apply DeviceMessage.ofLabel?_message_eq_none
      intro s hs
      rw [hs] at hstate
      cases hstate
    . exact h id r hr

theorem IsCoherent.run {g : Registry} (h : g.IsCoherent) {events : List Event}
    (hevents : ∀ e ∈ events, e.FromMessage) : (g.run events).IsCoherent := by
  induction events generalizing g with
  | nil => exact h
  | cons e events ih =>
    rw [run_cons]
    apply ih (h.step (hevents e List.mem_cons_self))
    intro e' he'
    exact hevents e' (List.mem_cons_of_mem e he')

def Reachable (g : Registry) : Prop :=
  ∃ events : List Event, (∀ e ∈ events, e.FromMessage) ∧ empty.run events = g

theorem Reachable.isCoherent {g : Registry} (h : g.Reachable) : g.IsCoherent := by
  obtain ⟨events, hevents, rfl⟩ := h
  exact isCoherent_empty.run hevents

end Registry
end LockFleet
