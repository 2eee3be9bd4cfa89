import LockFleet.Dispatch.History
import LockFleet.Proofs.Dispatch.Pending

/-!
This module contains what is answered to a command, and what sending it does to each part of the
dispatcher.
-/

namespace LockFleet

def Accepted.message (a : Accepted) : Message :=
  ⟨a.topic, a.payload⟩

def Plan.answer (verdict : Verdict) : Except Refusal Accepted → Except Failure Accepted
  | .error r => .error (.refused r)
  | .ok a =>
    match verdict with
    | .error e => .error (.unpublished e)
    | .ok () => .ok a

theorem Plan.answer_eq_ok_iff {verdict : Verdict} {plan : Except Refusal Accepted} {a : Accepted} :
    answer verdict plan = .ok a ↔ plan = .ok a ∧ verdict = .ok () := by
  cases plan with
  | error r => simp [answer]
  | ok b => cases verdict <;> simp [answer]

theorem Plan.eq_ok_of_answer_eq_ok {verdict : Verdict} {plan : Except Refusal Accepted}
    {a : Accepted} (h : answer verdict plan = .ok a) : plan = .ok a :=
  (answer_eq_ok_iff.1 h).1

def Dispatch.handed : Except Failure Accepted → List Message
  | .ok a => [a.message]
  | .error _ => []

def Pending.ofAnswer? (c : Command) (sequence : Option Sequence) :
    Except Failure Accepted → Option Pending
  | .ok _ => ofCommand? c sequence
  | .error _ => none

theorem Pending.timely_ofAnswer? (c : Command) (record : Option DeviceRecord)
    (answer : Except Failure Accepted) :
    Timely record (ofAnswer? c (record.map DeviceRecord.sequence) answer) := by
  cases answer with
  | ok a => apply timely_ofCommand?
  | error e => apply timely_none

namespace Dispatch

open Pending (Alike Timely current? ofAnswer? ofCommand?)

variable (d : Dispatch) (verdict : Verdict) (raw : String) (id i : DeviceId) (c : Command)

theorem registry_settle : (d.settle id).registry = d.registry := by
  unfold settle
  split <;> rfl

theorem published_settle : (d.settle id).published = d.published := by
  unfold settle
  split <;> rfl

theorem get?_settle :
    (d.settle id).pending.get? i
      = if id = i then current? (d.pending.get? id) (d.registry.get? id)
        else d.pending.get? i := by
  unfold settle
  cases h : current? (d.pending.get? id) (d.registry.get? id) with
  | none => exact Roster.get?_erase ..
  | some p =>
    dsimp
    split
    . next hid =>
      subst hid
      cases hr : d.registry.get? id with
      | none => rwa [hr] at h
      | some r =>
        rw [hr] at h
        exact (Pending.current?_eq_some_iff.1 h).1
    . rfl

theorem registry_remember : (d.remember id c).registry = d.registry := by
  unfold remember
  split <;> rfl

theorem published_remember : (d.remember id c).published = d.published := by
  unfold remember
  split <;> rfl

theorem get?_remember :
    (d.remember id c).pending.get? i
      = if id = i then
          (ofCommand? c ((d.registry.get? id).map DeviceRecord.sequence)).or (d.pending.get? i)
        else d.pending.get? i := by
  unfold remember
  split
  . next p hp => simp [hp]
  . next hp => simp [hp]

theorem send_fst :
    (d.send verdict id c).1 = Plan.answer verdict (Plan.plan id (d.assumedRecord? id) c) := by
  unfold send prepare
  cases Plan.plan id (d.assumedRecord? id) c with
  | error r => rfl
  | ok a => cases verdict <;> rfl

theorem registry_send : (d.send verdict id c).2.registry = d.registry := by
  unfold send prepare
  cases Plan.plan id (d.assumedRecord? id) c with
  | error r => apply registry_settle
  | ok a =>
    cases verdict with
    | error e => apply registry_settle
    | ok _ =>
      dsimp
      rw [registry_remember]
      apply registry_settle

theorem published_send :
    (d.send verdict id c).2.published = d.published ++ handed (d.send verdict id c).1 := by
  unfold send prepare
  cases Plan.plan id (d.assumedRecord? id) c with
  | error r => simp [handed, published_settle]
  | ok a =>
    cases verdict with
    | error e => simp [handed, published_settle]
    | ok _ =>
      dsimp
      rw [published_remember]
      simp [handed, publish, published_settle, Accepted.message]

theorem get?_send :
    (d.send verdict id c).2.pending.get? i
      = if id = i then
          (ofAnswer? c ((d.registry.get? id).map DeviceRecord.sequence)
            (d.send verdict id c).1).or (current? (d.pending.get? id) (d.registry.get? id))
        else d.pending.get? i := by
  unfold send prepare
  cases Plan.plan id (d.assumedRecord? id) c with
  | error r => simp [ofAnswer?, get?_settle]
  | ok a =>
    cases verdict with
    | error e => simp [ofAnswer?, get?_settle]
    | ok _ =>
      dsimp
      rw [get?_remember]
      unfold publish
      dsimp
      rw [registry_settle, get?_settle]
      split
      . next hid =>
        subst hid
        rfl
      . rfl

theorem submit_of_ofText?_eq_none (h : DeviceId.ofText? raw = none) :
    d.submit verdict raw c = (.error (.invalidDevice raw), d) := by
  unfold submit
  rw [h]

theorem submit_of_ofText?_eq_some {raw : String} {id : DeviceId}
    (h : DeviceId.ofText? raw = some id) : d.submit verdict raw c = d.send verdict id c := by
  unfold submit
  rw [h]

theorem step_submit :
    d.step (.submit raw c verdict)
      = (some (d.submit verdict raw c).1, (d.submit verdict raw c).2) := rfl

theorem step_report (e : Registry.Event) :
    d.step (.report e) = (none, { d with registry := d.registry.step e }) := rfl

theorem registry_submit : (d.submit verdict raw c).2.registry = d.registry := by
  cases h : DeviceId.ofText? raw with
  | none => rw [submit_of_ofText?_eq_none d verdict raw c h]
  | some id =>
    rw [submit_of_ofText?_eq_some d verdict c h]
    apply registry_send

theorem published_submit :
    (d.submit verdict raw c).2.published = d.published ++ handed (d.submit verdict raw c).1 := by
  cases h : DeviceId.ofText? raw with
  | none =>
    rw [submit_of_ofText?_eq_none d verdict raw c h]
    simp [handed]
  | some id =>
    rw [submit_of_ofText?_eq_some d verdict c h]
    apply published_send

end Dispatch
end LockFleet
