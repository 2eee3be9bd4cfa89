import LockFleet.Proofs.Dispatch.Submit
import LockFleet.Proofs.Dispatch.Unknown
import LockFleet.Proofs.Registry.Numbering

/-!
This module contains the proof that the commands that are sent to a device make up a chain of
transitions: each of them starts from the state that the last one leads to, or from the reported state
if there was a report since.
-/

namespace LockFleet

namespace Dispatch

open Pending (Timely current? ofAnswer? ofCommand?)

/--
Whether an event is a command, or a report such as a lock can make, which the registry numbers itself.
-/
def Event.IsOrdinary : Event → Prop
  | submit .. => True
  | report e => e.FromMessage ∧ e.Unnumbered

def recording? (d : Dispatch) : Event → Option Registry.Delivery
  | .submit .. => none
  | .report e => d.registry.recording? e

def recorded (d : Dispatch) : List Event → Nat
  | [] => 0
  | e :: events => (d.recording? e).toList.length + (d.step e).2.recorded events

def commandedBy? (d : Dispatch) (id : DeviceId) : Event → Option LifecycleState
  | .submit raw c verdict =>
    if DeviceId.ofText? raw = some id ∧ (d.registry.get? id).isSome
        ∧ (d.submit verdict raw c).1.isOk then
      c.target?
    else none
  | .report _ => none

/--
The target of the last command that was sent to a device while it had a record, unless a report of the
device was recorded since. It is `last` if there was neither such a command nor a report.
-/
def commanded? (d : Dispatch) (id : DeviceId) (last : Option LifecycleState) :
    List Event → Option LifecycleState
  | [] => last
  | e :: events =>
    let next :=
      if (d.recording? e).any (fun x => x.id == id) then none
      else (d.commandedBy? id e).or last
    (d.step e).2.commanded? id next events

structure Standing (d : Dispatch) (id : DeviceId) (target : Option LifecycleState) : Prop where
  timely : Timely (d.registry.get? id) (d.pending.get? id)
  target_eq : (current? (d.pending.get? id) (d.registry.get? id)).map Pending.target = target

namespace Standing

variable {d : Dispatch} {id : DeviceId} {last : Option LifecycleState}

theorem send (h : Standing d id last) (verdict : Verdict) (c : Command) :
    Standing (d.send verdict id c).2 id
      ((if (d.registry.get? id).isSome ∧ (d.send verdict id c).1.isOk then c.target?
        else none).or last) := by
  have htimely := (Pending.timely_ofAnswer? c (d.registry.get? id) (d.send verdict id c).1).or
    h.timely.current?
  constructor
  . rw [registry_send, get?_send, if_pos rfl]
    exact htimely
  . rw [registry_send, get?_send, if_pos rfl, ← h.target_eq]
    cases hr : d.registry.get? id with
    | none =>
      cases ha : (d.send verdict id c).1 with
      | error e => rfl
      | ok a => cases htarget : c.target? <;> simp [ofAnswer?, ofCommand?, htarget]
    | some r =>
      cases ha : (d.send verdict id c).1 with
      | error e => simp [ofAnswer?, Except.isOk, Except.toBool]
      | ok a =>
        cases htarget : c.target? with
        | none => simp [ofAnswer?, ofCommand?, htarget]
        | some target =>
          have hcurrent : current? (some ⟨target, r.sequence⟩) (some r)
              = some ⟨target, r.sequence⟩ := Pending.current?_eq_some_iff.2 ⟨rfl, rfl⟩
          simp [ofAnswer?, ofCommand?, htarget, hcurrent, Except.isOk, Except.toBool]

theorem send_other (h : Standing d id last) (verdict : Verdict) {i : DeviceId} (hi : i ≠ id)
    (c : Command) : Standing (d.send verdict i c).2 id last := by
  constructor
  . rw [registry_send, get?_send, if_neg hi]
    exact h.timely
  . rw [registry_send, get?_send, if_neg hi]
    exact h.target_eq

theorem submit (h : Standing d id last) (raw : String) (c : Command) (verdict : Verdict) :
    Standing (d.submit verdict raw c).2 id
      ((d.commandedBy? id (.submit raw c verdict)).or last) := by
  simp only [commandedBy?]
  cases hraw : DeviceId.ofText? raw with
  | none =>
    rw [submit_of_ofText?_eq_none d verdict raw c hraw]
    simpa using h
  | some i =>
    rw [submit_of_ofText?_eq_some d verdict c hraw]
    by_cases hi : i = id
    . subst hi
      simpa using h.send verdict c
    . rw [if_neg (by simp [hi])]
      exact h.send_other verdict hi c

theorem report (h : Standing d id last) (hnumbered : d.registry.IsNumbered) {e : Registry.Event}
    (he : e.Unnumbered) :
    Standing { d with registry := d.registry.step e } id
      (if (d.registry.recording? e).any (fun x => x.id == id) then none else last) := by
  refine ⟨h.timely.later (Registry.later_step d.registry e id), ?_⟩
  dsimp
  cases hx : d.registry.recording? e with
  | none =>
    rw [Registry.step_of_recording?_eq_none hx]
    simpa using h.target_eq
  | some x =>
    rw [Registry.step_of_recording? hx, Registry.get?_record]
    by_cases hid : x.id = id
    . subst hid
      -- The number of the report is new, so that no pending command was checked against it.
      rw [if_pos rfl, if_pos (by simp)]
      apply Option.map_eq_none_iff.2
      apply Option.eq_none_iff_forall_ne_some.2
      intro p hp
      obtain ⟨hpending, hsequence⟩ := Pending.current?_eq_some_iff.1 hp
      obtain ⟨r, hr, hle⟩ := h.timely p hpending
      have hlt := hnumbered.lt_of_recording? he hx hr
      have : p.sequence = x.sequence := hsequence
      rw [this] at hle
      omega
    . rw [if_neg hid, if_neg (by simp [hid])]
      exact h.target_eq

theorem run {events : List Event} (h : Standing d id last) (hnumbered : d.registry.IsNumbered)
    (hcoherent : d.registry.IsCoherent) (hevents : ∀ e ∈ events, e.IsOrdinary)
    (hcount : d.registry.next.value + d.recorded events ≤ maxWord) :
    Standing (d.run events).2 id (d.commanded? id last events)
      ∧ (d.run events).2.registry.IsCoherent := by
  induction events generalizing d last with
  | nil => exact ⟨h, hcoherent⟩
  | cons e events ih =>
    have hevent : e.IsOrdinary := hevents e List.mem_cons_self
    have hrest : ∀ e ∈ events, e.IsOrdinary := fun e he => hevents e (List.mem_cons_of_mem _ he)
    rw [run_cons]
    simp only [commanded?, recorded] at hcount ⊢
    cases e with
    | submit raw c verdict =>
      have hregistry := registry_submit d verdict raw c
      rw [step_submit] at hcount ⊢
      apply ih (h.submit raw c verdict) _ _ hrest
      . simpa [recording?, hregistry] using hcount
      . rwa [hregistry]
      . rwa [hregistry]
    | report e =>
      obtain ⟨hmessage, hunnumbered⟩ := hevent
      rw [step_report] at hcount ⊢
      simp only [recording?, commandedBy?, Option.none_or] at hcount ⊢
      have hcount' : d.registry.next.value + (d.registry.recording? e).toList.length ≤ maxWord := by
        omega
      apply ih (h.report hnumbered hunnumbered) _ _ hrest
      . dsimp
        rw [Registry.next_step hunnumbered hcount']
        omega
      . exact hnumbered.step hunnumbered hcount'
      . exact hcoherent.step hmessage

theorem state_assume (h : Standing d id last) {r : DeviceRecord}
    (hr : d.registry.get? id = some r) :
    (Pending.assume (d.pending.get? id) r).state = last.or r.state := by
  unfold Pending.assume
  rw [← h.target_eq, hr]
  cases current? (d.pending.get? id) (some r) with
  | none => rfl
  | some p => rfl

end Standing

theorem standing_empty (id : DeviceId) : Standing empty id none :=
  ⟨Pending.timely_none _, rfl⟩

theorem accepted_along_edge {before : List Event} (hevents : ∀ e ∈ before, e.IsOrdinary)
    (hcount : empty.recorded before ≤ maxWord) {raw : String} {id : DeviceId} {c : Command}
    {verdict : Verdict} {r : DeviceRecord} {target : LifecycleState} {a : Accepted}
    (hid : DeviceId.ofText? raw = some id)
    (hr : (empty.run before).2.registry.get? id = some r) (htarget : c.target? = some target)
    (ha : ((empty.run before).2.submit verdict raw c).1 = .ok a) :
    ∃ s reason, (empty.commanded? id none before).or r.state = some s ∧
      s ≠ target ∧ Transition.allows s target = true ∧
      Transition.reason? s target = some reason ∧ a.reason = some reason ∧
      (c = .cancelReservation → s = .reserved) := by
  have hmax : empty.registry.next.value + empty.recorded before ≤ maxWord := by
    have : empty.registry.next.value = 0 := rfl
    omega
  obtain ⟨hstanding, hcoherent⟩ := (standing_empty id).run Registry.isNumbered_empty
    Registry.isCoherent_empty hevents hmax
  generalize (empty.run before).2 = d at hr ha hstanding hcoherent
  have hplan : Plan.plan id (some (Pending.assume (d.pending.get? id) r)) c = .ok a := by
    rw [submit_of_ofText?_eq_some d verdict c hid, send_fst] at ha
    unfold assumedRecord? at ha
    rw [hr] at ha
    exact Plan.eq_ok_of_answer_eq_ok ha
  have hassumed := (hcoherent id r hr).assume (d.pending.get? id)
  rw [← hstanding.state_assume hr]
  cases hstate : (Pending.assume (d.pending.get? id) r).state with
  | none =>
    rw [Plan.plan_of_state_eq_none htarget hassumed hstate] at hplan
    cases hplan
  | some s =>
    obtain ⟨reason, hknown, rfl⟩ := Plan.plan_of_state_eq_some htarget hstate hplan
    obtain ⟨hcheck, hcancel⟩ := Plan.checkKnown_eq_ok hknown
    obtain ⟨hne, hreason⟩ := Transition.check_eq_ok hcheck
    exact ⟨s, reason, rfl, hne, Transition.allows_of_reason? hreason, hreason, rfl, hcancel⟩

def reserved : List Event :=
  [.report (.ingest ⟨0, 0⟩ "esp/status/aa" "available" none), .submit "AA" .reserve (.ok ())]

theorem cancelReservation_accepted_along_edge :
    ((empty.run reserved).2.submit (.ok ()) "a-a" .cancelReservation).1
      = .ok ⟨(DeviceId.ofText? "aa").get rfl, .cancelReservation, some "Reservation cancelled"⟩ ∧
    ∃ s reason, (empty.commanded? ((DeviceId.ofText? "aa").get rfl) none reserved).or
        (some .available) = some s ∧
      s ≠ .available ∧ Transition.allows s .available = true ∧
      Transition.reason? s .available = some reason ∧
      some "Reservation cancelled" = some reason ∧
      (Command.cancelReservation = .cancelReservation → s = .reserved) := by
  have hevents : ∀ e ∈ reserved, e.IsOrdinary := by
    intro e he
    simp only [reserved, List.mem_cons, List.not_mem_nil, or_false] at he
    rcases he with rfl | rfl
    . exact ⟨trivial, trivial⟩
    . trivial
  have hcount : empty.recorded reserved ≤ maxWord := by decide +kernel
  have hid : DeviceId.ofText? "a-a" = some ((DeviceId.ofText? "aa").get rfl) := rfl
  have hr : (empty.run reserved).2.registry.get? ((DeviceId.ofText? "aa").get rfl)
      = some ⟨"available", some .available, ⟨0, by decide⟩, ⟨0, 0⟩⟩ := by decide +kernel
  have ha : ((empty.run reserved).2.submit (.ok ()) "a-a" .cancelReservation).1
      = .ok ⟨(DeviceId.ofText? "aa").get rfl, .cancelReservation, some "Reservation cancelled"⟩ := by
    rfl
  exact ⟨ha, accepted_along_edge hevents hcount hid hr rfl ha⟩

end Dispatch
end LockFleet
