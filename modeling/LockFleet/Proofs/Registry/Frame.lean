import LockFleet.Proofs.Registry.Delivery
import LockFleet.Proofs.Topic.Classification

/-!
This module contains the proof that a registry is written to in one place at most. A report that is
recorded changes the record of its device and no other, and what is late, refused, logged or ignored
changes nothing at all.
-/

namespace LockFleet.Registry

open Topic (StatusRoot isWithin)

structure WrittenFor (id : DeviceId) (before after : Registry) : Prop where
  others : ∀ other, other ≠ id → after.get? other = before.get? other
  devices : ∀ other,
    (after.get? other).isSome = true ↔ (before.get? other).isSome = true ∨ other = id
  next_le : before.next.value ≤ after.next.value

def IsConfined (before : Registry) (result : IngestOutcome × Registry) : Prop :=
  match result.1 with
  | .applied id _ => WrittenFor id before result.2
  | .log _ _ => result.2 = before
  | .invalid _ _ => result.2 = before
  | .ignored => result.2 = before

variable {g : Registry}

theorem writtenFor_record (g : Registry) (x : Delivery) : WrittenFor x.id g (g.record x) := by
  constructor
  . intro other hother
    rw [get?_record, if_neg (Ne.symm hother)]
  . intro other
    rw [get?_record]
    split
    . next hid => simp [hid]
    . next hid => simp [Ne.symm hid]
  . unfold record
    rw [Sequence.value_max]
    apply Nat.le_max_left

theorem writtenFor_of_isStale {id : DeviceId} {sequence : Sequence}
    (h : g.isStale id sequence = true) : WrittenFor id g g := by
  obtain ⟨r, hr, _⟩ := isStale_eq_true_iff.1 h
  constructor
  . intro other _
    rfl
  . intro other
    constructor
    . exact Or.inl
    . rintro (hother | rfl)
      . exact hother
      . rw [hr]
        rfl
  . apply Nat.le_refl

theorem writtenFor_apply (g : Registry) (x : Delivery) :
    WrittenFor x.id g (g.apply x.now x.id x.report x.sequence).2 := by
  cases hstale : g.isStale x.id x.sequence with
  | true =>
    rw [apply_of_isStale hstale]
    exact writtenFor_of_isStale hstale
  | false =>
    rw [apply_of_not_isStale hstale]
    exact writtenFor_record g x

theorem apply_eq_self_of_refused {x : Delivery}
    (h : (g.apply x.now x.id x.report x.sequence).1 = false) :
    (g.apply x.now x.id x.report x.sequence).2 = g := by
  cases hstale : g.isStale x.id x.sequence with
  | true => rw [apply_of_isStale hstale]
  | false =>
    rw [apply_of_not_isStale hstale] at h
    cases h

theorem isConfined_ingest (g : Registry) (now : Instant) (topic payload : String)
    (fallback : Option DeviceId) : g.IsConfined (g.ingest now topic payload fallback) := by
  cases hr : reading? topic payload fallback with
  | none =>
    obtain ⟨happlied, hsame⟩ := ingest_of_reading?_eq_none g now hr
    unfold IsConfined
    split
    . next id state hanswer => exact absurd hanswer (happlied id state)
    . exact hsame
    . exact hsame
    . exact hsame
  | some r =>
    rw [ingest_of_reading? g now hr]
    exact writtenFor_apply g ⟨now, r.1, r.2.report, g.next⟩

theorem reading?_eq_none_of_logs {topic : String} (payload : String) (fallback : Option DeviceId)
    (h : isWithin topic StatusRoot.logs.base = true) : reading? topic payload fallback = none := by
  unfold reading?
  rw [StatusRoot.classify?_eq_some_iff.2 ⟨h, rfl⟩]
  dsimp only
  split <;> rfl

theorem written_for_one_device (g : Registry) :
    (∀ (now : Instant) (topic payload : String) (fallback : Option DeviceId),
      g.IsConfined (g.ingest now topic payload fallback)) ∧
    (∀ (now : Instant) (id : DeviceId) (report : Report) (sequence : Sequence),
      let result := g.apply now id report sequence
      (result.1 = false → result.2 = g) ∧ (result.1 = true → WrittenFor id g result.2)) ∧
    ∀ (now : Instant) (topic payload : String) (fallback : Option DeviceId),
      isWithin topic StatusRoot.logs.base = true →
        (g.ingest now topic payload fallback).2 = g := by
  refine ⟨g.isConfined_ingest, ?_, ?_⟩
  . intro now id report sequence
    constructor
    . exact apply_eq_self_of_refused (x := ⟨now, id, report, sequence⟩)
    . intro _
      exact writtenFor_apply g ⟨now, id, report, sequence⟩
  . intro now topic payload fallback hlogs
    exact (ingest_of_reading?_eq_none g now (reading?_eq_none_of_logs payload fallback hlogs)).2

def bookedFive (id : DeviceId) : List Event :=
  [.apply ⟨0, 0⟩ id BookingMessage.booked.report (.clamp 5)]

theorem written_for_one_device_late_and_logged :
    ∃ aa bb : DeviceId,
      let g := empty.run (bookedFive aa)
      let late := g.apply ⟨1, 0⟩ aa BookingMessage.available.report (.clamp 4)
      let other := g.apply ⟨1, 0⟩ bb BookingMessage.available.report (.clamp 4)
      (late.1 = false ∧ late.2 = g) ∧ (other.1 = true ∧ WrittenFor bb g other.2) ∧
      isWithin "esp/logs/aa" StatusRoot.logs.base = true ∧
        (g.ingest ⟨1, 0⟩ "esp/logs/aa" "available" none).2 = g := by
  let aa : DeviceId := (DeviceId.ofText? "aa").get rfl
  let bb : DeviceId := (DeviceId.ofText? "bb").get rfl
  obtain ⟨_, happly, hlogs⟩ := written_for_one_device (empty.run (bookedFive aa))
  have hlate : ((empty.run (bookedFive aa)).apply ⟨1, 0⟩ aa BookingMessage.available.report
      (.clamp 4)).1 = false := by decide +kernel
  have hother : ((empty.run (bookedFive aa)).apply ⟨1, 0⟩ bb BookingMessage.available.report
      (.clamp 4)).1 = true := by decide +kernel
  have hwithin : isWithin "esp/logs/aa" StatusRoot.logs.base = true := by decide +kernel
  exact ⟨aa, bb, ⟨hlate, (happly _ _ _ _).1 hlate⟩, ⟨hother, (happly _ _ _ _).2 hother⟩, hwithin,
    hlogs _ _ _ _ hwithin⟩

end LockFleet.Registry
