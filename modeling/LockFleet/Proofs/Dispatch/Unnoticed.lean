import LockFleet.Proofs.Dispatch.Submit

/-!
This module contains the proof that a command that failed, and one of which nothing is remembered, has
no influence on what comes after it. The pending commands with and without it are alike, and alike
pending commands stay alike and yield the same answers.
-/

namespace LockFleet.Dispatch

open Pending (Timely current? ofAnswer?)

structure Alike (d d' : Dispatch) : Prop where
  registry_eq : d.registry = d'.registry
  pending : ∀ id, Pending.Alike (d.registry.get? id) (d.pending.get? id) (d'.pending.get? id)

namespace Alike

variable {d d' : Dispatch}

theorem assumedRecord?_eq (h : Alike d d') (id : DeviceId) :
    d.assumedRecord? id = d'.assumedRecord? id := by
  unfold assumedRecord?
  rw [← h.registry_eq, (h.pending id).map_assume_eq]

theorem send_fst_eq (h : Alike d d') (verdict : Verdict) (id : DeviceId) (c : Command) :
    (d.send verdict id c).1 = (d'.send verdict id c).1 := by
  rw [send_fst, send_fst, h.assumedRecord?_eq]

theorem send (h : Alike d d') (verdict : Verdict) (id : DeviceId) (c : Command) :
    Alike (d.send verdict id c).2 (d'.send verdict id c).2 := by
  constructor
  . rw [registry_send, registry_send, h.registry_eq]
  . intro i
    rw [registry_send, get?_send, get?_send, ← h.send_fst_eq, ← h.registry_eq]
    split
    . next hid =>
      subst hid
      apply (h.pending id).current?_both.or_left
      apply Pending.timely_ofAnswer?
    . exact h.pending i

theorem step (h : Alike d d') (e : Event) :
    (d.step e).1 = (d'.step e).1 ∧ Alike (d.step e).2 (d'.step e).2 := by
  cases e with
  | submit raw c verdict =>
    rw [step_submit, step_submit]
    cases hid : DeviceId.ofText? raw with
    | none =>
      rw [submit_of_ofText?_eq_none d verdict raw c hid,
        submit_of_ofText?_eq_none d' verdict raw c hid]
      exact ⟨rfl, h⟩
    | some id =>
      rw [submit_of_ofText?_eq_some d verdict c hid, submit_of_ofText?_eq_some d' verdict c hid,
        h.send_fst_eq]
      exact ⟨rfl, h.send verdict id c⟩
  | report e =>
    refine ⟨rfl, congrArg (·.step e) h.registry_eq, ?_⟩
    intro id
    exact (h.pending id).later (Registry.later_step d.registry e id)

theorem run (h : Alike d d') (events : List Event) :
    (d.run events).1 = (d'.run events).1 ∧ Alike (d.run events).2 (d'.run events).2 := by
  induction events generalizing d d' with
  | nil => exact ⟨rfl, h⟩
  | cons e events ih =>
    obtain ⟨hanswer, hstep⟩ := h.step e
    obtain ⟨hanswers, hrun⟩ := ih hstep
    rw [run_cons, run_cons, hanswer, hanswers]
    exact ⟨rfl, hrun⟩

end Alike

def Reachable (d : Dispatch) : Prop :=
  ∃ events, (empty.run events).2 = d

theorem alike_empty : Alike empty empty := by
  refine ⟨rfl, ?_⟩
  intro id
  exact Pending.Alike.refl (Pending.timely_none _)

theorem Reachable.timely {d : Dispatch} (h : Reachable d) (id : DeviceId) :
    Timely (d.registry.get? id) (d.pending.get? id) := by
  obtain ⟨events, rfl⟩ := h
  exact ((alike_empty.run events).2.pending id).left

def handedWith (answers : List Answer) : List Message :=
  answers.flatMap fun answer => (answer.map handed).getD []

theorem published_run (d : Dispatch) (events : List Event) :
    (d.run events).2.published = d.published ++ handedWith (d.run events).1 := by
  induction events generalizing d with
  | nil => simp [handedWith]
  | cons e events ih =>
    rw [run_cons, ih]
    cases e with
    | submit raw c verdict =>
      rw [step_submit, published_submit]
      simp [handedWith]
    | report e => simp [step_report, handedWith]

/--
Whether a command with an answer leaves nothing to remember: it failed, it has no target, or its
device has not reported.
-/
def IsFleeting (d : Dispatch) (raw : String) (c : Command) : Except Failure Accepted → Prop
  | .error _ => True
  | .ok _ => c.target? = none ∨ ∀ id, DeviceId.ofText? raw = some id → d.registry.get? id = none

theorem alike_submit_of_isFleeting {d : Dispatch} (hd : Reachable d) {raw : String} {c : Command}
    {verdict : Verdict} (h : d.IsFleeting raw c (d.submit verdict raw c).1) :
    Alike (d.submit verdict raw c).2 d := by
  cases hid : DeviceId.ofText? raw with
  | none =>
    rw [submit_of_ofText?_eq_none d verdict raw c hid]
    exact ⟨rfl, fun i => Pending.Alike.refl (hd.timely i)⟩
  | some id =>
    rw [submit_of_ofText?_eq_some d verdict c hid] at h ⊢
    refine ⟨registry_send d verdict id c, ?_⟩
    intro i
    rw [registry_send, get?_send]
    split
    . next hi =>
      subst hi
      have hnothing : ofAnswer? c ((d.registry.get? id).map DeviceRecord.sequence)
          (d.send verdict id c).1 = none := by
        cases ha : (d.send verdict id c).1 with
        | error e => rfl
        | ok a =>
          rw [ha] at h
          rcases h with htarget | hrecord
          . simp [ofAnswer?, Pending.ofCommand?, htarget]
          . rw [hrecord id hid]
            cases htarget : c.target? <;> simp [ofAnswer?, Pending.ofCommand?, htarget]
      rw [hnothing, Option.none_or]
      exact Pending.Alike.current? (hd.timely id)
    . exact Pending.Alike.refl (hd.timely i)

theorem fleeting_submit_unnoticed {d : Dispatch} (hd : Reachable d) {raw : String} {c : Command}
    {verdict : Verdict} (h : d.IsFleeting raw c (d.submit verdict raw c).1) :
    (d.submit verdict raw c).2.registry = d.registry ∧
    ∀ later : List Event,
      ((d.submit verdict raw c).2.run later).1 = (d.run later).1 ∧
      ((d.submit verdict raw c).2.run later).2.registry = (d.run later).2.registry ∧
      ∃ sent, (d.run later).2.published = d.published ++ sent ∧
        ((d.submit verdict raw c).2.run later).2.published
          = (d.submit verdict raw c).2.published ++ sent := by
  refine ⟨registry_submit d verdict raw c, ?_⟩
  intro later
  -- What a report or a read yields depends on the registry alone, so it is enough to compare that.
  obtain ⟨hanswers, halike⟩ := (alike_submit_of_isFleeting hd h).run later
  refine ⟨hanswers, halike.registry_eq, handedWith (d.run later).1, published_run d later, ?_⟩
  rw [published_run, hanswers]

def outdated : List Event :=
  [.report (.ingest ⟨0, 0⟩ "esp/status/aa" "available" none), .submit "AA" .book (.ok ()),
    .report (.ingest ⟨1, 0⟩ "esp/status/aa" "booked" none)]

theorem refused_submit_unnoticed :
    ∃ d, Reachable d ∧ d.tracked = 1 ∧
      (d.submit (.ok ()) "aa" .cancelReservation).2.tracked = 0 ∧
      (d.submit (.ok ()) "aa" .cancelReservation).2.registry = d.registry ∧
      ∀ later : List Event,
        ((d.submit (.ok ()) "aa" .cancelReservation).2.run later).1 = (d.run later).1 ∧
        ((d.submit (.ok ()) "aa" .cancelReservation).2.run later).2.registry
          = (d.run later).2.registry ∧
        ∃ sent, (d.run later).2.published = d.published ++ sent ∧
          ((d.submit (.ok ()) "aa" .cancelReservation).2.run later).2.published
            = (d.submit (.ok ()) "aa" .cancelReservation).2.published ++ sent := by
  have hreachable : Reachable (empty.run outdated).2 := ⟨outdated, rfl⟩
  have hrefused : ((empty.run outdated).2.submit (.ok ()) "aa" .cancelReservation).1
      = .error (.refused (.reservationNotFound "AA" none)) := rfl
  have hfleeting : (empty.run outdated).2.IsFleeting "aa" .cancelReservation
      ((empty.run outdated).2.submit (.ok ()) "aa" .cancelReservation).1 := by
    rw [hrefused]
    trivial
  refine ⟨(empty.run outdated).2, hreachable, ?_, ?_, ?_⟩
  . decide +kernel
  . decide +kernel
  . exact fleeting_submit_unnoticed hreachable hfleeting

end LockFleet.Dispatch
