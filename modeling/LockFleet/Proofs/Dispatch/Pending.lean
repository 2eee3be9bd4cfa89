import LockFleet.Dispatch.Basic
import LockFleet.Proofs.Registry.Delivery

/-!
This module contains the comparison of pending commands. Two of them are alike for a device if no
command that is sent now or later can tell them apart, which holds of a pending command and of what is
left of it after the outdated ones are forgotten.
-/

namespace LockFleet.Pending

open Registry (Later)

variable {record record' : Option DeviceRecord} {p q : Option Pending}

theorem current?_eq_some_iff {x : Pending} {r : DeviceRecord} :
    current? p (some r) = some x ↔ p = some x ∧ x.sequence = r.sequence := by
  simp [current?, Option.filter_eq_some_iff]

@[simp]
theorem current?_current? (p : Option Pending) (record : Option DeviceRecord) :
    current? (current? p record) record = current? p record := by
  cases record with
  | none => rfl
  | some r => simp [current?]

def Timely (record : Option DeviceRecord) (p : Option Pending) : Prop :=
  ∀ x, p = some x → ∃ r, record = some r ∧ x.sequence.value ≤ r.sequence.value

theorem timely_none (record : Option DeviceRecord) : Timely record none := by
  intro x hx
  cases hx

theorem Timely.later (hp : Timely record p) (h : Later record record') : Timely record' p := by
  intro x hx
  obtain ⟨r, hr, hle⟩ := hp x hx
  obtain ⟨r', hr', hle'⟩ := h r hr
  exact ⟨r', hr', Nat.le_trans hle hle'⟩

theorem Timely.current? (hp : Timely record p) : Timely record (current? p record) := by
  intro x hx
  cases record with
  | none => exact hp x hx
  | some r => exact hp x (current?_eq_some_iff.1 hx).1

theorem Timely.or (hp : Timely record p) (hq : Timely record q) : Timely record (p.or q) := by
  intro x hx
  cases p with
  | none => exact hq x hx
  | some y => exact hp x hx

theorem timely_ofCommand? (c : Command) (record : Option DeviceRecord) :
    Timely record (ofCommand? c (record.map DeviceRecord.sequence)) := by
  intro x hx
  cases record with
  | none => cases h : c.target? <;> simp [ofCommand?, h] at hx
  | some r =>
    cases h : c.target? with
    | none => simp [ofCommand?, h] at hx
    | some target =>
      simp only [ofCommand?, h, Option.map_some, Option.some.injEq] at hx
      subst hx
      exact ⟨r, rfl, Nat.le_refl _⟩

/--
No command can tell one pending command from the other, not even after more reports.
-/
structure Alike (record : Option DeviceRecord) (p q : Option Pending) : Prop where
  current?_eq : current? p record = current? q record
  left : Timely record p
  right : Timely record q

namespace Alike

theorem refl (h : Timely record p) : Alike record p p :=
  ⟨rfl, h, h⟩

theorem symm (h : Alike record p q) : Alike record q p :=
  ⟨h.current?_eq.symm, h.right, h.left⟩

theorem trans {r : Option Pending} (h : Alike record p q) (h' : Alike record q r) :
    Alike record p r :=
  ⟨h.current?_eq.trans h'.current?_eq, h.left, h'.right⟩

theorem current? (h : Timely record p) : Alike record (current? p record) p :=
  ⟨current?_current? p record, h.current?, h⟩

theorem later (h : Alike record p q) (hl : Later record record') : Alike record' p q := by
  refine ⟨?_, h.left.later hl, h.right.later hl⟩
  cases record with
  | none =>
    have hp : p = none := by
      apply Option.eq_none_iff_forall_ne_some.2
      intro x hx
      obtain ⟨r, hr, _⟩ := h.left x hx
      cases hr
    have hq : q = none := by
      apply Option.eq_none_iff_forall_ne_some.2
      intro x hx
      obtain ⟨r, hr, _⟩ := h.right x hx
      cases hr
    rw [hp, hq]
  | some r =>
    obtain ⟨r', rfl, hle⟩ := hl r rfl
    -- A newer report outdates both commands at once, since neither was checked against it.
    have transfer : ∀ {p q : Option Pending}, Alike (some r) p q → ∀ x,
        Pending.current? p (some r') = some x → Pending.current? q (some r') = some x := by
      intro p q h x hx
      obtain ⟨hpx, hseq⟩ := current?_eq_some_iff.1 hx
      obtain ⟨_, hr, hbound⟩ := h.left x hpx
      cases hr
      have heq : r.sequence = r'.sequence := by
        apply Sequence.ext
        rw [hseq] at hbound
        omega
      have hcurrent := h.current?_eq
      rw [current?_eq_some_iff.2 ⟨hpx, hseq.trans heq.symm⟩] at hcurrent
      exact current?_eq_some_iff.2 ⟨(current?_eq_some_iff.1 hcurrent.symm).1, hseq⟩
    apply Option.ext
    intro x
    constructor
    . apply transfer h
    . apply transfer h.symm

theorem or_left (h : Alike record p q) {x : Option Pending} (hx : Timely record x) :
    Alike record (x.or p) (x.or q) := by
  cases x with
  | none => exact h
  | some y => exact refl hx

theorem current?_both (h : Alike record p q) :
    Alike record (Pending.current? p record) (Pending.current? q record) := by
  have hp := current? h.left
  have hq := current? h.right
  exact hp.trans (h.trans hq.symm)

theorem map_assume_eq (h : Alike record p q) : record.map (assume p) = record.map (assume q) := by
  cases record with
  | none => rfl
  | some r =>
    rw [Option.map_some, Option.map_some]
    unfold assume
    rw [h.current?_eq]

end Alike
end LockFleet.Pending
