import LockFleet.Proofs.Dispatch.Traffic

/-!
This module contains the device that an event concerns. An event leaves all other devices alone: their
records, their pending commands and the messages to them stay as they are.
-/

namespace LockFleet

namespace Registry

def Event.device? : Event → Option DeviceId
  | observe _ id _ => some id
  | apply _ id _ _ => some id
  | ingest _ topic _ fallback =>
    (Topic.StatusRoot.classify? topic).bind fun c => attribute? c.2 fallback

theorem attribute?_of_reading? {topic payload : String} {fallback : Option DeviceId}
    {r : DeviceId × DeviceMessage} (h : reading? topic payload fallback = some r) :
    ((Topic.StatusRoot.classify? topic).bind fun c => attribute? c.2 fallback) = some r.1 := by
  unfold reading? at h
  split at h
  . cases h
  . next root segment hc =>
    rw [hc, Option.bind_some]
    split at h
    . cases h
    . next id ha =>
      rw [ha]
      split at h
      . cases h
        rfl
      . cases h

theorem device?_of_delivery? {g : Registry} {e : Event} {x : Delivery}
    (h : g.delivery? e = some x) : e.device? = some x.id := by
  cases e with
  | observe now id report =>
    cases h
    rfl
  | apply now id report sequence =>
    cases h
    rfl
  | ingest now topic payload fallback =>
    obtain ⟨r, hr, rfl⟩ := Option.map_eq_some_iff.1 h
    exact attribute?_of_reading? hr

theorem get?_step_of_device?_ne {g : Registry} {e : Event} {id : DeviceId}
    (h : e.device? ≠ some id) : (g.step e).get? id = g.get? id := by
  cases hx : g.recording? e with
  | none => rw [step_of_recording?_eq_none hx]
  | some x =>
    rw [step_of_recording? hx, get?_record, if_neg]
    rintro rfl
    exact h (device?_of_delivery? (delivery?_of_recording? hx))

end Registry

namespace Dispatch

open Message (sentTo)

def Event.device? : Event → Option DeviceId
  | submit raw _ _ => DeviceId.ofText? raw
  | report e => e.device?

structure AgreeOn (id : DeviceId) (d d' : Dispatch) : Prop where
  record_eq : d.registry.get? id = d'.registry.get? id
  pending_eq : d.pending.get? id = d'.pending.get? id
  sent_eq : sentTo id d.published = sentTo id d'.published

theorem AgreeOn.refl (id : DeviceId) (d : Dispatch) : AgreeOn id d d :=
  ⟨rfl, rfl, rfl⟩

theorem AgreeOn.trans {id : DeviceId} {d d' d'' : Dispatch} (h : AgreeOn id d d')
    (h' : AgreeOn id d' d'') : AgreeOn id d d'' :=
  ⟨h.record_eq.trans h'.record_eq, h.pending_eq.trans h'.pending_eq, h.sent_eq.trans h'.sent_eq⟩

theorem AgreeOn.assumedRecord?_eq {id : DeviceId} {d d' : Dispatch} (h : AgreeOn id d d') :
    d.assumedRecord? id = d'.assumedRecord? id := by
  unfold assumedRecord?
  rw [h.record_eq, h.pending_eq]

theorem agreeOn_send (d : Dispatch) (verdict : Verdict) {id i : DeviceId} (h : i ≠ id)
    (c : Command) : AgreeOn id (d.send verdict i c).2 d := by
  refine ⟨?_, ?_, ?_⟩
  . rw [registry_send]
  . rw [get?_send, if_neg h]
  . rw [published_send, Message.sentTo_append, sentTo_handed_send, if_neg h, List.append_nil]

theorem agreeOn_step (d : Dispatch) {e : Event} {id : DeviceId} (h : e.device? ≠ some id) :
    AgreeOn id (d.step e).2 d := by
  cases e with
  | submit raw c verdict =>
    rw [step_submit]
    cases hraw : DeviceId.ofText? raw with
    | none =>
      rw [submit_of_ofText?_eq_none d verdict raw c hraw]
      apply AgreeOn.refl
    | some i =>
      rw [submit_of_ofText?_eq_some d verdict c hraw]
      apply agreeOn_send
      rintro rfl
      exact h hraw
  | report e =>
    rw [step_report]
    exact ⟨Registry.get?_step_of_device?_ne h, rfl, rfl⟩

theorem agreeOn_run (d : Dispatch) {events : List Event} {id : DeviceId}
    (h : ∀ e ∈ events, e.device? ≠ some id) : AgreeOn id (d.run events).2 d := by
  induction events generalizing d with
  | nil => apply AgreeOn.refl
  | cons e events ih =>
    rw [run_cons]
    have hrest : ∀ e ∈ events, e.device? ≠ some id := fun e he => h e (List.mem_cons_of_mem _ he)
    exact (ih (d.step e).2 hrest).trans (agreeOn_step d (h e List.mem_cons_self))

end Dispatch
end LockFleet
