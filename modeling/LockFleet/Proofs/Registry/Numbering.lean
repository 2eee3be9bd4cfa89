import LockFleet.Proofs.Registry.Delivery

/-!
This module contains the proof that the registry gives every report a number above all earlier ones, as
long as it numbers all reports itself and the numbers last.
-/

namespace LockFleet.Registry

def IsNumbered (g : Registry) : Prop :=
  ∀ id r, g.get? id = some r → r.sequence.value < g.next.value

theorem isNumbered_empty : empty.IsNumbered := by
  intro id r hr
  cases hr

variable {g : Registry} {e : Event}

theorem next_step (he : e.Unnumbered)
    (hcount : g.next.value + (g.recording? e).toList.length ≤ maxWord) :
    (g.step e).next.value = g.next.value + (g.recording? e).toList.length := by
  cases hx : g.recording? e with
  | none =>
    rw [step_of_recording?_eq_none hx]
    rfl
  | some x =>
    have hnext : g.next.value < maxWord := by
      rw [hx, Option.toList_some, List.length_singleton] at hcount
      omega
    rw [step_of_recording? hx]
    unfold record
    rw [Sequence.value_max, sequence_of_recording? he hx, Sequence.value_next_of_lt hnext]
    simp

theorem IsNumbered.step (h : g.IsNumbered) (he : e.Unnumbered)
    (hcount : g.next.value + (g.recording? e).toList.length ≤ maxWord) :
    (g.step e).IsNumbered := by
  have hstep := next_step he hcount
  cases hx : g.recording? e with
  | none => rwa [step_of_recording?_eq_none hx]
  | some x =>
    rw [hx, step_of_recording? hx] at hstep
    rw [step_of_recording? hx]
    intro id r hr
    rw [hstep]
    rw [get?_record] at hr
    split at hr
    . cases hr
      unfold recordAfter
      rw [sequence_of_recording? he hx]
      simp
    . have := h id r hr
      omega

theorem IsNumbered.lt_of_recording? (h : g.IsNumbered) (he : e.Unnumbered) {x : Delivery}
    (hx : g.recording? e = some x) {r : DeviceRecord} (hr : g.get? x.id = some r) :
    r.sequence.value < x.sequence.value := by
  rw [sequence_of_recording? he hx]
  exact h x.id r hr

theorem IsNumbered.recording?_eq_delivery? (h : g.IsNumbered) (he : e.Unnumbered) :
    g.recording? e = g.delivery? e := by
  unfold recording?
  cases hx : g.delivery? e with
  | none => rfl
  | some x =>
    apply Option.filter_eq_some_iff.2
    refine ⟨rfl, ?_⟩
    rw [Bool.not_eq_true', isStale_eq_false_iff, sequence_of_delivery? he hx]
    intro r hr
    exact Nat.le_of_lt (h x.id r hr)

end LockFleet.Registry
