import LockFleet.Proofs.Dispatch.Concern
import LockFleet.Proofs.Dispatch.Unnoticed

/-!
This module contains the rule by which a report takes the place of a pending command, and its exception.
The registry records a report unless its number is below that of the record, while a pending command is
given up only when the number of the record changes. So a report that repeats the number of the record is
recorded, but the next command is still checked against the target of the pending one.
-/

namespace LockFleet

theorem Pending.assume_eq_self_iff {p : Option Pending} {r : DeviceRecord} :
    assume p r = r ↔ ∀ x, p = some x → x.sequence = r.sequence → r.state = some x.target := by
  unfold assume
  constructor
  . intro h x hx hsequence
    rw [current?_eq_some_iff.2 ⟨hx, hsequence⟩] at h
    rw [← h]
    rfl
  . intro h
    split
    . next x hx =>
      obtain ⟨hp, hsequence⟩ := current?_eq_some_iff.1 hx
      unfold DeviceRecord.assuming
      rw [← h x hp hsequence]
    . rfl

namespace Dispatch

def ChecksAgainst (d : Dispatch) (id : DeviceId) (record : Option DeviceRecord) : Prop :=
  d.assumedRecord? id = record ∧
    ∀ (verdict : Verdict) (raw : String) (c : Command), DeviceId.ofText? raw = some id →
      (d.submit verdict raw c).1 = Plan.answer verdict (Plan.plan id record c)

theorem checksAgainst_iff {d : Dispatch} {id : DeviceId} {record : Option DeviceRecord} :
    d.ChecksAgainst id record ↔ d.assumedRecord? id = record := by
  constructor
  . exact fun h => h.1
  . rintro rfl
    refine ⟨rfl, ?_⟩
    intro verdict raw c hraw
    rw [submit_of_ofText?_eq_some d verdict c hraw, send_fst]

/--
Whether a report takes the place of what was assumed of its device: if it is recorded, the next command
to the device is checked against the new record, and else against what it would have been checked against
before. In between there may be events that concern other devices.
-/
def Supersedes (d : Dispatch) (x : Registry.Delivery) : Prop :=
  let result := d.registry.apply x.now x.id x.report x.sequence
  ∀ between : List Event, (∀ e ∈ between, e.device? ≠ some x.id) →
    let after := (Dispatch.run { d with registry := result.2 } between).2
    (result.1 = true → after.ChecksAgainst x.id (result.2.get? x.id)) ∧
    (result.1 = false → after.ChecksAgainst x.id (d.assumedRecord? x.id))

variable {d : Dispatch} {x : Registry.Delivery}

theorem assumedRecord?_record (d : Dispatch) (x : Registry.Delivery) :
    assumedRecord? { d with registry := d.registry.record x } x.id
      = some (Pending.assume (d.pending.get? x.id)
          (d.registry.recordAfter x.now x.id x.report x.sequence)) := by
  unfold assumedRecord?
  rw [Registry.get?_record, if_pos rfl]
  rfl

theorem supersedes_of_isStale (h : d.registry.isStale x.id x.sequence = true) :
    d.Supersedes x := by
  unfold Supersedes
  rw [Registry.apply_of_isStale h]
  dsimp only
  intro between hbetween
  constructor
  . intro hrecorded
    cases hrecorded
  . intro _
    rw [checksAgainst_iff]
    exact (agreeOn_run d hbetween).assumedRecord?_eq

theorem supersedes_iff_of_not_isStale (h : d.registry.isStale x.id x.sequence = false) :
    d.Supersedes x ↔
      Pending.assume (d.pending.get? x.id)
          (d.registry.recordAfter x.now x.id x.report x.sequence)
        = d.registry.recordAfter x.now x.id x.report x.sequence := by
  have hrecord : (d.registry.record x).get? x.id
      = some (d.registry.recordAfter x.now x.id x.report x.sequence) := by
    rw [Registry.get?_record, if_pos rfl]
  unfold Supersedes
  rw [Registry.apply_of_not_isStale h]
  dsimp only
  constructor
  . intro hsupersedes
    have hchecks := ((hsupersedes [] (by simp)).1 rfl).1
    rw [run_nil, assumedRecord?_record, hrecord] at hchecks
    exact Option.some.inj hchecks
  . intro hassume between hbetween
    constructor
    . intro _
      rw [checksAgainst_iff, (agreeOn_run _ hbetween).assumedRecord?_eq, assumedRecord?_record,
        hassume, hrecord]
    . intro hrefused
      cases hrefused

theorem supersedes_iff (hd : Reachable d) (x : Registry.Delivery) :
    d.Supersedes x ↔
      ∀ p r, d.pending.get? x.id = some p → d.registry.get? x.id = some r →
        p.sequence = r.sequence → x.sequence = r.sequence →
          x.report.state.resolve r.state = some p.target := by
  cases hstale : d.registry.isStale x.id x.sequence with
  | true =>
    refine iff_of_true (supersedes_of_isStale hstale) ?_
    intro p r _ hr _ hrepeated
    unfold Registry.isStale at hstale
    rw [hr, hrepeated] at hstale
    simp at hstale
  | false =>
    rw [supersedes_iff_of_not_isStale hstale, Pending.assume_eq_self_iff]
    have hstate : ∀ r, d.registry.get? x.id = some r →
        (d.registry.recordAfter x.now x.id x.report x.sequence).state
          = x.report.state.resolve r.state := by
      intro r hr
      unfold Registry.recordAfter
      rw [hr]
      rfl
    constructor
    . intro h p r hp hr hcurrent hrepeated
      rw [← hstate r hr]
      exact h p hp (hcurrent.trans hrepeated.symm)
    . intro h p hp hsequence
      have hsequence' : p.sequence = x.sequence := hsequence
      -- The number of the report is not below that of the record, and that of the pending command is
      -- not above it.
      obtain ⟨r, hr, hle⟩ := hd.timely x.id p hp
      have hcurrent : p.sequence = r.sequence := by
        unfold Registry.isStale at hstale
        rw [hr] at hstale
        simp only [Option.any_some, decide_eq_false_iff_not] at hstale
        apply Sequence.ext
        rw [hsequence'] at hle ⊢
        omega
      rw [hstate r hr]
      exact h p r hp hr hcurrent (hsequence'.symm.trans hcurrent)

def bookedOnce : List Event :=
  [.report (.ingest ⟨0, 0⟩ "esp/status/aa" "available" none), .submit "AA" .book (.ok ())]

def freeAgain (sequence : Sequence) : Registry.Delivery :=
  ⟨⟨1, 0⟩, (DeviceId.ofText? "aa").get rfl, (StatusMessage.lifecycle .available).report, sequence⟩

theorem newer_report_supersedes :
    ∃ d, Reachable d ∧ (d.pending.get? (freeAgain ⟨1, by decide⟩).id).isSome = true ∧
      (d.Supersedes (freeAgain ⟨1, by decide⟩) ↔
        ∀ p r, d.pending.get? (freeAgain ⟨1, by decide⟩).id = some p →
          d.registry.get? (freeAgain ⟨1, by decide⟩).id = some r →
          p.sequence = r.sequence → (freeAgain ⟨1, by decide⟩).sequence = r.sequence →
            (freeAgain ⟨1, by decide⟩).report.state.resolve r.state = some p.target) ∧
      d.Supersedes (freeAgain ⟨1, by decide⟩) := by
  have hreachable : Reachable (empty.run bookedOnce).2 := ⟨bookedOnce, rfl⟩
  have hrecord : ((empty.run bookedOnce).2.registry.get? (freeAgain ⟨1, by decide⟩).id).map
      DeviceRecord.sequence = some ⟨0, by decide⟩ := by decide +kernel
  have hiff := supersedes_iff hreachable (freeAgain ⟨1, by decide⟩)
  refine ⟨_, hreachable, by decide +kernel, hiff, hiff.2 ?_⟩
  intro p r _ hr _ hrepeated
  rw [hr] at hrecord
  rw [Option.some.inj hrecord] at hrepeated
  cases hrepeated

theorem not_supersedes_repeated_report :
    ∃ d, Reachable d ∧
      (d.registry.apply ⟨1, 0⟩ ((DeviceId.ofText? "aa").get rfl)
        (StatusMessage.lifecycle .available).report ⟨0, by decide⟩).1 = true ∧
      ¬d.Supersedes (freeAgain ⟨0, by decide⟩) := by
  refine ⟨(empty.run bookedOnce).2, ⟨bookedOnce, rfl⟩, by decide +kernel, ?_⟩
  intro h
  have hrecorded : ((empty.run bookedOnce).2.registry.apply ⟨1, 0⟩
      ((DeviceId.ofText? "aa").get rfl) (StatusMessage.lifecycle .available).report
      ⟨0, by decide⟩).1 = true := by decide +kernel
  have hchecks := ((h [] (by simp)).1 hrecorded).1
  revert hchecks
  decide +kernel

end Dispatch
end LockFleet
