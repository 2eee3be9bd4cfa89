import Mathlib.Data.List.Pairwise
import LockFleet.Proofs.Registry.LastReport
import LockFleet.Proofs.Registry.Recording
import LockFleet.Proofs.Roster

/-!
This module contains the proof that reports with numbers of their own may come in any order: a device
ends up with the message and the number of its newest report. Its state may depend on the order only if
the newest report is silent about it.
-/

namespace LockFleet

theorem ReportedState.resolve_of_ne_silent {r : ReportedState} (h : r ≠ .silent)
    (previous : Option LifecycleState) : r.resolve previous = r.named? := by
  cases r with
  | known state => rfl
  | unresolved => rfl
  | silent => exact absurd rfl h

theorem Sequence.max_right_comm (s t u : Sequence) : (s.max t).max u = (s.max u).max t := by
  apply ext
  rw [value_max, value_max, value_max, value_max, Nat.max_right_comm]

namespace Registry

def Delivery.content (x : Delivery) : DeviceId × Report × Sequence :=
  (x.id, x.report, x.sequence)

structure IsNewest (calls : List Delivery) (x : Delivery) : Prop where
  mem : x ∈ calls
  le : ∀ y ∈ calls, y.id = x.id → y.sequence.value ≤ x.sequence.value

def NumbersDiffer (calls : List Delivery) : Prop :=
  calls.Pairwise fun x y => x.id = y.id → x.sequence ≠ y.sequence

variable {g : Registry} {past calls calls' : List Delivery}

theorem mem_of_mem_accepted {x : Delivery} (h : x ∈ g.accepted calls) : x ∈ calls := by
  induction calls generalizing g with
  | nil => cases h
  | cons y calls ih =>
    cases hstale : g.isStale y.id y.sequence with
    | true =>
      rw [accepted_cons_of_isStale hstale] at h
      exact List.mem_cons_of_mem y (ih h)
    | false =>
      rw [accepted_cons_of_not_isStale hstale] at h
      rcases List.mem_cons.1 h with rfl | h
      . exact List.mem_cons_self
      . exact List.mem_cons_of_mem y (ih h)

theorem Recalls.exists_accepted_ge (h : Recalls g past) {x : Delivery} (hx : x ∈ calls) :
    ∃ y ∈ ofDevice x.id (past ++ g.accepted calls), x.sequence.value ≤ y.sequence.value := by
  induction calls generalizing g past with
  | nil => cases hx
  | cons z calls ih =>
    cases hstale : g.isStale z.id z.sequence with
    | true =>
      rw [accepted_cons_of_isStale hstale]
      rcases List.mem_cons.1 hx with rfl | hx
      . obtain ⟨r, hr, hlt⟩ := isStale_eq_true_iff.1 hstale
        rw [h.record] at hr
        obtain ⟨y, hlast, rfl⟩ := Option.map_eq_some_iff.1 hr
        obtain ⟨hy, hid⟩ := mem_ofDevice.1 (List.mem_of_getLast? hlast)
        exact ⟨y, mem_ofDevice.2 ⟨List.mem_append_left _ hy, hid⟩, Nat.le_of_lt hlt⟩
      . exact ih h hx
    | false =>
      rw [accepted_cons_of_not_isStale hstale, List.append_cons]
      rcases List.mem_cons.1 hx with rfl | hx
      . exact ⟨x, mem_ofDevice.2 ⟨by simp, rfl⟩, Nat.le_refl _⟩
      . exact ih (h.record_concat hstale) hx

theorem isNewest_of_getLast? {id : DeviceId} {x : Delivery}
    (h : (ofDevice id (empty.accepted calls)).getLast? = some x) :
    IsNewest calls x ∧ x.id = id := by
  obtain ⟨hmem, hid⟩ := mem_ofDevice.1 (List.mem_of_getLast? h)
  refine ⟨⟨mem_of_mem_accepted hmem, ?_⟩, hid⟩
  intro y hy hyid
  obtain ⟨z, hz, hle⟩ := Recalls.empty.exists_accepted_ge hy
  rw [hyid, hid] at hz
  exact Nat.le_trans hle ((recalls_deliver calls).le_of_getLast? h hz)

namespace IsNewest

variable {x y : Delivery}

theorem unique (hx : IsNewest calls x) (hy : IsNewest calls y) (hdiffer : NumbersDiffer calls)
    (hid : x.id = y.id) : x = y := by
  by_contra hne
  have : Std.Symm fun x y : Delivery => x.id = y.id → x.sequence ≠ y.sequence :=
    ⟨fun _ _ h hid hsequence => h hid.symm hsequence.symm⟩
  apply hdiffer.forall hx.mem hy.mem hne hid
  apply Sequence.ext
  have hle := hx.le y hy.mem hid.symm
  have hge := hy.le x hx.mem hid
  omega

theorem getLast?_eq (hx : IsNewest calls x) (hdiffer : NumbersDiffer calls) :
    (ofDevice x.id (empty.accepted calls)).getLast? = some x := by
  cases hlast : (ofDevice x.id (empty.accepted calls)).getLast? with
  | none =>
    obtain ⟨y, hy, _⟩ := Recalls.empty.exists_accepted_ge hx.mem
    rw [List.nil_append, List.getLast?_eq_none_iff.1 hlast] at hy
    cases hy
  | some y =>
    obtain ⟨hy, hid⟩ := isNewest_of_getLast? hlast
    rw [hx.unique hy hdiffer hid.symm]

theorem get?_deliver (hx : IsNewest calls x) (hdiffer : NumbersDiffer calls) :
    ∃ r, (empty.deliver calls).get? x.id = some r ∧ r.message = x.report.message ∧
      r.sequence = x.sequence ∧
      (x.report.state ≠ .silent → r.state = x.report.state.named?) := by
  have hlast := hx.getLast?_eq hdiffer
  obtain ⟨earlier, hconcat⟩ := List.getLast?_eq_some_iff.1 hlast
  rw [(recalls_deliver calls).record, hconcat, recordOf?_concat]
  refine ⟨_, rfl, rfl, rfl, ?_⟩
  intro htelling
  exact ReportedState.resolve_of_ne_silent htelling _

theorem exists_of_perm (hx : IsNewest calls x)
    (hperm : (calls.map Delivery.content).Perm (calls'.map Delivery.content)) :
    ∃ y, IsNewest calls' y ∧ y.content = x.content := by
  obtain ⟨y, hy, hcontent⟩ := List.mem_map.1 (hperm.mem_iff.1 (List.mem_map_of_mem hx.mem))
  obtain ⟨hid, hreport⟩ := Prod.mk.inj hcontent
  refine ⟨y, ⟨hy, ?_⟩, hcontent⟩
  intro z hz hzid
  obtain ⟨w, hw, hcontent'⟩ := List.mem_map.1 (hperm.mem_iff.2 (List.mem_map_of_mem hz))
  obtain ⟨hwid, hwreport⟩ := Prod.mk.inj hcontent'
  rw [(Prod.mk.inj hreport).2, ← (Prod.mk.inj hwreport).2]
  exact hx.le w hw (hwid.trans (hzid.trans hid))

end IsNewest

theorem numbersDiffer_iff :
    NumbersDiffer calls ↔
      (calls.map Delivery.content).Pairwise fun a b => a.1 = b.1 → a.2.2 ≠ b.2.2 := by
  rw [List.pairwise_map]
  rfl

theorem NumbersDiffer.of_perm (h : NumbersDiffer calls)
    (hperm : (calls.map Delivery.content).Perm (calls'.map Delivery.content)) :
    NumbersDiffer calls' := by
  rw [numbersDiffer_iff] at h ⊢
  apply (hperm.pairwise_iff _).1 h
  intro a b hab hid hsequence
  exact hab hid.symm hsequence.symm

theorem IsAhead.next_apply (h : g.IsAhead) (x : Delivery) :
    (g.apply x.now x.id x.report x.sequence).2.next = g.next.max x.sequence.next := by
  cases hstale : g.isStale x.id x.sequence with
  | true =>
    rw [apply_of_isStale hstale]
    -- The number is below a recorded one, which the next number has passed.
    obtain ⟨r, hr, hlt⟩ := isStale_eq_true_iff.1 hstale
    have hpassed := h x.id r hr
    apply Sequence.ext
    rw [Sequence.value_next] at hpassed
    rw [Sequence.value_max, Sequence.value_next]
    dsimp only
    omega
  | false =>
    rw [apply_of_not_isStale hstale]
    rfl

theorem IsAhead.next_deliver (h : g.IsAhead) (calls : List Delivery) :
    (g.deliver calls).next
      = ((calls.map Delivery.content).map fun c => c.2.2.next).foldl Sequence.max g.next := by
  induction calls generalizing g with
  | nil => rfl
  | cons x calls ih =>
    have hstep : (g.apply x.now x.id x.report x.sequence).2.IsAhead := h.step x.event
    rw [deliver_cons, ih hstep, h.next_apply]
    rfl

theorem get?_deliver_eq_none_or (calls : List Delivery) (id : DeviceId) :
    (empty.deliver calls).get? id = none ∨ ∃ x, IsNewest calls x ∧ x.id = id := by
  rw [(recalls_deliver calls).record]
  cases hlast : (ofDevice id (empty.accepted calls)).getLast? with
  | none =>
    left
    unfold recordOf?
    rw [hlast]
    rfl
  | some x => exact Or.inr ⟨x, isNewest_of_getLast? hlast⟩

structure Converged (calls calls' : List Delivery) : Prop where
  devices : (empty.deliver calls).records.entries.map Prod.fst
    = (empty.deliver calls').records.entries.map Prod.fst
  next : (empty.deliver calls).next = (empty.deliver calls').next
  message_and_sequence : ∀ id,
    ((empty.deliver calls).get? id).map (fun r => (r.message, r.sequence))
      = ((empty.deliver calls').get? id).map fun r => (r.message, r.sequence)
  state : ∀ x, IsNewest calls x → x.report.state ≠ .silent →
    ((empty.deliver calls).get? x.id).map DeviceRecord.state
      = ((empty.deliver calls').get? x.id).map DeviceRecord.state
  newest : ∀ x, IsNewest calls x → ∃ r, (empty.deliver calls).get? x.id = some r ∧
    r.message = x.report.message ∧ r.sequence = x.sequence ∧
    (x.report.state ≠ .silent → r.state = x.report.state.named?)

section

variable (hperm : (calls.map Delivery.content).Perm (calls'.map Delivery.content))
  (hdiffer : NumbersDiffer calls)

include hperm hdiffer

theorem IsNewest.get?_deliver_both {x : Delivery} (hx : IsNewest calls x) :
    ∃ r r', (empty.deliver calls).get? x.id = some r ∧
      (empty.deliver calls').get? x.id = some r' ∧
      r.message = r'.message ∧ r.sequence = r'.sequence ∧
      (x.report.state ≠ .silent → r.state = r'.state) := by
  obtain ⟨r, hr, hmessage, hsequence, hstate⟩ := hx.get?_deliver hdiffer
  obtain ⟨y, hy, hcontent⟩ := hx.exists_of_perm hperm
  obtain ⟨hid, hreport⟩ := Prod.mk.inj hcontent
  obtain ⟨hreport, hsequence'⟩ := Prod.mk.inj hreport
  obtain ⟨r', hr', hmessage', hysequence, hstate'⟩ := hy.get?_deliver (hdiffer.of_perm hperm)
  rw [hid] at hr'
  rw [hreport] at hmessage' hstate'
  refine ⟨r, r', hr, hr', hmessage.trans hmessage'.symm, ?_, ?_⟩
  . rw [hsequence, hysequence, hsequence']
  . intro htelling
    rw [hstate htelling, hstate' htelling]

theorem message_and_sequence_deliver_eq (id : DeviceId) :
    ((empty.deliver calls).get? id).map (fun r => (r.message, r.sequence))
      = ((empty.deliver calls').get? id).map fun r => (r.message, r.sequence) := by
  rcases get?_deliver_eq_none_or calls id with hnone | ⟨x, hx, rfl⟩
  . rcases get?_deliver_eq_none_or calls' id with hnone' | ⟨y, hy, rfl⟩
    . rw [hnone, hnone']
    . -- A device that has reported in one order has reported in the other.
      obtain ⟨x, hx, hcontent⟩ := hy.exists_of_perm hperm.symm
      obtain ⟨r, _, hr, _⟩ := hx.get?_deliver_both hperm hdiffer
      rw [(Prod.mk.inj hcontent).1, hnone] at hr
      cases hr
  . obtain ⟨r, r', hr, hr', hmessage, hsequence, _⟩ := hx.get?_deliver_both hperm hdiffer
    rw [hr, hr', Option.map_some, Option.map_some, hmessage, hsequence]

end

theorem converged_of_perm
    (hperm : (calls.map Delivery.content).Perm (calls'.map Delivery.content))
    (hdiffer : NumbersDiffer calls) : Converged calls calls' := by
  constructor
  . apply Roster.devices_eq_of_forall_isSome
    intro id
    have hknown := congrArg Option.isSome (message_and_sequence_deliver_eq hperm hdiffer id)
    rw [Option.isSome_map, Option.isSome_map] at hknown
    unfold get? at hknown
    rw [hknown]
  . rw [isAhead_empty.next_deliver, isAhead_empty.next_deliver]
    apply (hperm.map _).foldl_eq'
    intro s _ t _ u
    apply Sequence.max_right_comm
  . exact message_and_sequence_deliver_eq hperm hdiffer
  . intro x hx htelling
    obtain ⟨r, r', hr, hr', _, _, hstate⟩ := hx.get?_deliver_both hperm hdiffer
    rw [hr, hr', Option.map_some, Option.map_some, hstate htelling]
  . intro x hx
    exact hx.get?_deliver hdiffer

def inOrder (aa bb : DeviceId) : List Delivery :=
  [⟨⟨0, 0⟩, aa, StatusMessage.online.report, .clamp 0⟩,
    ⟨⟨1, 0⟩, aa, BookingMessage.booked.report, .clamp 1⟩,
    ⟨⟨2, 0⟩, bb, StatusMessage.online.report, .clamp 1⟩,
    ⟨⟨3, 0⟩, aa, BookingMessage.available.report, .clamp maxWord⟩]

theorem converged_reverse :
    ∃ aa bb : DeviceId,
      ((inOrder aa bb).map Delivery.content).Perm ((inOrder aa bb).reverse.map Delivery.content) ∧
      NumbersDiffer (inOrder aa bb) ∧
      (empty.accepted (inOrder aa bb)).length = 4 ∧
      (empty.accepted (inOrder aa bb).reverse).length = 2 ∧
      Converged (inOrder aa bb) (inOrder aa bb).reverse := by
  let aa : DeviceId := (DeviceId.ofText? "aa").get rfl
  let bb : DeviceId := (DeviceId.ofText? "bb").get rfl
  have hperm := (List.reverse_perm (inOrder aa bb)).symm.map Delivery.content
  have hdiffer : NumbersDiffer (inOrder aa bb) := by
    unfold NumbersDiffer
    decide +kernel
  exact ⟨aa, bb, hperm, hdiffer, by decide +kernel, by decide +kernel,
    converged_of_perm hperm hdiffer⟩

end Registry
end LockFleet
