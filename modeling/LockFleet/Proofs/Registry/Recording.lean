import LockFleet.Proofs.Registry.Delivery
import LockFleet.Proofs.Report

/-!
This module contains the proof that no report is lost that the registry numbers itself. The next number
is above all recorded ones, unless the numbers have run out, and it is never below any of them. So a
message that is answered with its device and a state is on record, word for word.
-/

namespace LockFleet.Registry

/--
The number of every record has been passed. Only the greatest number is followed by itself.
-/
def IsAhead (g : Registry) : Prop :=
  ∀ id r, g.get? id = some r → r.sequence.next.value ≤ g.next.value

theorem isAhead_empty : empty.IsAhead := by
  intro id r hr
  cases hr

namespace IsAhead

variable {g : Registry}

theorem step (h : g.IsAhead) (e : Event) : (g.step e).IsAhead := by
  cases hx : g.recording? e with
  | none => rwa [step_of_recording?_eq_none hx]
  | some x =>
    rw [step_of_recording? hx]
    have hnext : (g.record x).next.value = max g.next.value x.sequence.next.value := by
      apply Sequence.value_max
    intro id r hr
    rw [hnext]
    rw [get?_record] at hr
    split at hr
    . cases hr
      apply Nat.le_max_right
    . exact Nat.le_trans (h id r hr) (Nat.le_max_left ..)

theorem run (h : g.IsAhead) (events : List Event) : (g.run events).IsAhead := by
  induction events generalizing g with
  | nil => exact h
  | cons e events ih =>
    rw [run_cons]
    exact ih (h.step e)

theorem le_next (h : g.IsAhead) {id : DeviceId} {r : DeviceRecord} (hr : g.get? id = some r) :
    r.sequence.value ≤ g.next.value := by
  have hnext := h id r hr
  have hbounded := r.sequence.bounded
  rw [Sequence.value_next] at hnext
  omega

theorem lt_next (h : g.IsAhead) {id : DeviceId} {r : DeviceRecord} (hr : g.get? id = some r)
    (hmax : r.sequence.value ≠ maxWord) : r.sequence.value < g.next.value := by
  have hnext := h id r hr
  have hbounded := r.sequence.bounded
  rw [Sequence.value_next] at hnext
  omega

theorem not_isStale (h : g.IsAhead) (id : DeviceId) : g.isStale id g.next = false := by
  rw [isStale_eq_false_iff]
  intro r hr
  exact h.le_next hr

theorem apply_next (h : g.IsAhead) (now : Instant) (id : DeviceId) (report : Report) :
    g.apply now id report g.next = (true, g.record ⟨now, id, report, g.next⟩) :=
  apply_of_not_isStale (x := ⟨now, id, report, g.next⟩) (h.not_isStale id)

theorem get?_observe (h : g.IsAhead) (now : Instant) (id : DeviceId) (report : Report) :
    (g.observe now id report).get? id = some (g.recordAfter now id report g.next) := by
  unfold observe
  rw [h.apply_next, get?_record, if_pos rfl]

end IsAhead

theorem exists_reading?_of_applied {g : Registry} {now : Instant} {topic payload : String}
    {fallback : Option DeviceId} {id : DeviceId} {state : Option LifecycleState}
    (h : (g.ingest now topic payload fallback).1 = .applied id state) :
    ∃ m, reading? topic payload fallback = some (id, m) ∧
      (g.ingest now topic payload fallback).2 = g.observe now id m.report ∧
      state = ((g.observe now id m.report).get? id).bind DeviceRecord.state := by
  cases hr : reading? topic payload fallback with
  | none => exact absurd h ((ingest_of_reading?_eq_none g now hr).1 id state)
  | some r =>
    obtain ⟨id', m⟩ := r
    rw [ingest_of_reading? g now hr] at h ⊢
    cases h
    exact ⟨m, rfl, rfl, rfl⟩

theorem message_of_reading? {topic payload : String} {fallback : Option DeviceId} {id : DeviceId}
    {m : DeviceMessage} (h : reading? topic payload fallback = some (id, m)) :
    m.report.message = String.ofList (Text.trim payload.toList) := by
  unfold reading? at h
  split at h
  . cases h
  . split at h
    . cases h
    . split at h
      . next hm =>
        cases h
        exact message_of_message? hm
      . cases h

theorem reports_recorded (events : List Event) :
    let g := empty.run events
    (∀ id r, g.get? id = some r →
      r.sequence.value ≤ g.next.value ∧
        (r.sequence.value ≠ maxWord → r.sequence.value < g.next.value)) ∧
    (∀ now id report,
      (g.apply now id report g.next).1 = true ∧
        (g.observe now id report).get? id = some (g.recordAfter now id report g.next)) ∧
    ∀ now topic payload fallback id state,
      (g.ingest now topic payload fallback).1 = .applied id state →
        ∃ r, (g.ingest now topic payload fallback).2.get? id = some r ∧
          r.message = String.ofList (Text.trim payload.toList) ∧ r.state = state ∧
          ∀ old, g.get? id = some old → old.sequence.value ≤ r.sequence.value := by
  intro g
  have hahead : g.IsAhead := isAhead_empty.run events
  refine ⟨?_, ?_, ?_⟩
  . intro id r hr
    exact ⟨hahead.le_next hr, hahead.lt_next hr⟩
  . intro now id report
    rw [hahead.apply_next]
    exact ⟨rfl, hahead.get?_observe now id report⟩
  . intro now topic payload fallback id state happlied
    obtain ⟨m, hm, hafter, hstate⟩ := exists_reading?_of_applied happlied
    rw [hahead.get?_observe] at hstate
    rw [hafter, hahead.get?_observe]
    refine ⟨_, rfl, message_of_reading? hm, hstate.symm, ?_⟩
    intro old hold
    exact hahead.le_next hold

def exhausted (id : DeviceId) : List Event :=
  [.apply ⟨0, 0⟩ id BookingMessage.booked.report (.clamp maxWord)]

def paddedReports : List (String × String × String) :=
  [("esp/status/aa", "\tCurrent state: 007 ", "Current state: 007"),
    ("esp/booking/status/aa", " available", "available"),
    ("esp/maintenance/status/aa", "in_progress\n", "in_progress")]

theorem reports_recorded_exhausted :
    ∃ id, (empty.run (exhausted id)).next.value = maxWord ∧
      ∀ p ∈ paddedReports, ∃ state r,
        ((empty.run (exhausted id)).ingest ⟨1, 0⟩ p.1 p.2.1 none).1 = .applied id state ∧
        ((empty.run (exhausted id)).ingest ⟨1, 0⟩ p.1 p.2.1 none).2.get? id = some r ∧
        r.message = p.2.2 ∧ r.state = state := by
  let id : DeviceId := (DeviceId.ofText? "aa").get rfl
  have hread : ∀ p ∈ paddedReports,
      (reading? p.1 p.2.1 none).map Prod.fst = some id := by decide +kernel
  have htrim : ∀ p ∈ paddedReports, String.ofList (Text.trim p.2.1.toList) = p.2.2 := by
    decide +kernel
  obtain ⟨_, _, hingest⟩ := reports_recorded (exhausted id)
  refine ⟨id, by decide +kernel, ?_⟩
  intro p hp
  obtain ⟨⟨id', m⟩, hm, hid⟩ := Option.map_eq_some_iff.1 (hread p hp)
  dsimp only at hid
  rw [hid] at hm
  have happlied := congrArg Prod.fst (ingest_of_reading? (empty.run (exhausted id)) ⟨1, 0⟩ hm)
  obtain ⟨r, hr, hmessage, hstate, _⟩ := hingest _ _ _ _ _ _ happlied
  exact ⟨_, r, happlied, hr, hmessage.trans (htrim p hp), hstate⟩

end LockFleet.Registry
