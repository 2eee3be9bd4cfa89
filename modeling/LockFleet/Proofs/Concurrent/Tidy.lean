import LockFleet.Proofs.Concurrent.Slots
import LockFleet.Proofs.Plan

/-!
This module contains the invariant of the slots. A slot is locked by the one errand that says so, and
the slot of an errand stays in the table until the errand has seen to whether it is still of use.
-/

namespace LockFleet.Concurrent

/--
What holds of the slots after every step: no two devices share a slot, the slot of an errand is the one
in the table, and the locks are as the errands say.
-/
structure Tidy (s : State) : Prop where
  bounded : ∀ {id : DeviceId} {k : Nat}, s.table.get? id = some k → k < s.slots.length
  apart : ∀ {id id' : DeviceId} {k : Nat},
    s.table.get? id = some k → s.table.get? id' = some k → id = id'
  attended : ∀ {n : Nat} {e : Errand} {l : Lease},
    s.errands[n]? = some e → e.phase.attended? = some l →
      DeviceId.ofText? e.raw = some l.device ∧ s.table.get? l.device = some l.slot
  lock_iff : ∀ k n, s.lock? k = some n ↔ s.held? n = some k
  addressed : ∀ {n : Nat} {e : Errand} {l : Lease} {a : Accepted} {sequence : Option Sequence},
    s.errands[n]? = some e → e.phase = .planned l a sequence → a.device = l.device

theorem tidy_empty : Tidy .empty where
  bounded h := by cases h
  apart h := by cases h
  attended h := by cases h
  addressed h := by cases h
  lock_iff k n := by
    constructor
    . intro h
      cases h
    . intro h
      cases h

namespace Turn

variable {s shared : State} {n : Nat} {e : Errand} {event : Event} {p : Phase}

theorem table_cases (h : Turn s n e event shared p) :
    (shared.table = s.table ∧ shared.slots.length = s.slots.length) ∨
    (∃ device, s.table.get? device = none ∧ shared.table = s.table.insert device s.slots.length ∧
      shared.slots.length = s.slots.length + 1) ∨
    (∃ l answer, e.phase = .unlocked l answer ∧ s.references l.slot = 2 ∧
      shared.table = s.table.erase l.device ∧ shared.slots.length = s.slots.length) := by
  cases h
  case found device hp hid hslot =>
    refine .inr (.inl ⟨device, hslot, rfl, ?_⟩)
    exact List.length_append
  case check l answer hp =>
    rw [State.slots_dropUnused]
    unfold State.dropUnused
    split
    . next hunused => exact .inr (.inr ⟨l, answer, hp, hunused.1, rfl, rfl⟩)
    . exact .inl ⟨rfl, rfl⟩
  case lock => exact .inl ⟨rfl, List.length_set⟩
  case plan => exact .inl ⟨rfl, List.length_set⟩
  case refuse => exact .inl ⟨rfl, List.length_set⟩
  case unlock => exact .inl ⟨rfl, List.length_modify ..⟩
  case abandon => exact .inl ⟨rfl, List.length_modify ..⟩
  all_goals exact .inl ⟨rfl, rfl⟩

theorem bounded (hs : Tidy s) (h : Turn s n e event shared p) {id : DeviceId} {k : Nat}
    (hk : shared.table.get? id = some k) : k < shared.slots.length := by
  rcases h.table_cases with ⟨htable, hlength⟩ | ⟨device, _, htable, hlength⟩ |
    ⟨l, _, _, _, htable, hlength⟩
  . rw [htable] at hk
    rw [hlength]
    exact hs.bounded hk
  . rw [htable, Roster.get?_insert] at hk
    rw [hlength]
    split at hk
    . cases hk
      apply Nat.lt_succ_self
    . exact Nat.lt_succ_of_lt (hs.bounded hk)
  . rw [htable, Roster.get?_erase] at hk
    rw [hlength]
    split at hk
    . cases hk
    . exact hs.bounded hk

theorem apart (hs : Tidy s) (h : Turn s n e event shared p) {id id' : DeviceId} {k : Nat}
    (hk : shared.table.get? id = some k) (hk' : shared.table.get? id' = some k) : id = id' := by
  rcases h.table_cases with ⟨htable, _⟩ | ⟨device, _, htable, _⟩ | ⟨l, _, _, _, htable, _⟩
  . rw [htable] at hk hk'
    exact hs.apart hk hk'
  . rw [htable, Roster.get?_insert] at hk hk'
    split at hk
    . next hid =>
      cases hk
      split at hk'
      . next hid' => rw [← hid, hid']
      . exact absurd (hs.bounded hk') (Nat.lt_irrefl _)
    . split at hk'
      . cases hk'
        exact absurd (hs.bounded hk) (Nat.lt_irrefl _)
      . exact hs.apart hk hk'
  . rw [htable, Roster.get?_erase] at hk hk'
    split at hk
    . cases hk
    . split at hk'
      . cases hk'
      . exact hs.apart hk hk'

theorem attended (hs : Tidy s) (he : s.errands[n]? = some e) (h : Turn s n e event shared p)
    {l : Lease} (hl : p.attended? = some l) :
    DeviceId.ofText? e.raw = some l.device ∧ shared.table.get? l.device = some l.slot := by
  have before : ∀ {q : Phase}, e.phase = q → q.attended? = some l →
      DeviceId.ofText? e.raw = some l.device ∧ s.table.get? l.device = some l.slot := by
    intro q hp hq
    rw [← hp] at hq
    exact hs.attended he hq
  cases h
  -- Only `join` and `found` refer to a slot anew, the other turns keep the lease of the errand.
  case turnAway => cases hl
  case join device slot hp hid hslot =>
    cases hl
    exact ⟨hid, hslot⟩
  case found device hp hid hslot =>
    cases hl
    refine ⟨hid, ?_⟩
    unfold State.addSlot
    dsimp
    rw [Roster.get?_insert, if_pos rfl]
  case giveUp => cases hl
  case check => cases hl
  case leave => cases hl
  case lock hp _ => exact before hp hl
  case plan hp _ _ => exact before hp hl
  case refuse hp _ _ => exact before hp hl
  case abandon hp =>
    rcases hp with hp | ⟨a, sequence, hp⟩
    . exact before hp hl
    . exact before hp hl
  all_goals next hp => exact before hp hl

theorem attended_of_ne (hs : Tidy s) (he : s.errands[n]? = some e) (h : Turn s n e event shared p)
    {m : Nat} {e' : Errand} {l : Lease} (hm : m ≠ n) (he' : s.errands[m]? = some e')
    (hl : e'.phase.attended? = some l) : shared.table.get? l.device = some l.slot := by
  obtain ⟨_, hslot⟩ := hs.attended he' hl
  rcases h.table_cases with ⟨htable, _⟩ | ⟨device, hdevice, htable, _⟩ |
    ⟨l', answer, hp, hunused, htable, _⟩
  . rw [htable, hslot]
  . rw [htable, Roster.get?_insert]
    split
    . next hid =>
      rw [hid, hslot] at hdevice
      cases hdevice
    . exact hslot
  . have hl' : e.phase.attended? = some l' := by rw [hp]; rfl
    obtain ⟨_, hslot'⟩ := hs.attended he hl'
    rw [htable, Roster.get?_erase]
    split
    . next hid =>
      -- Both errands would refer to the slot that is dropped, so with the table there would be three.
      rw [hid, hslot] at hslot'
      have hsame : l.slot = l'.slot := Option.some.inj hslot'
      apply absurd _ hm
      apply State.eq_of_references_eq_two hunused (hsame ▸ hslot) he
      . exact Phase.slot?_of_attended? hl'
      . exact he'
      . rw [← hsame]
        exact Phase.slot?_of_attended? hl
    . exact hslot

theorem lock?_cases (h : Turn s n e event shared p) :
    (p.held? = e.phase.held? ∧ ∀ i, shared.lock? i = s.lock? i) ∨
    (∃ k, e.phase.held? = none ∧ p.held? = some k ∧ s.lock? k = none ∧
      ∀ i, shared.lock? i = if k = i then some n else s.lock? i) ∨
    (∃ k, e.phase.held? = some k ∧ p.held? = none ∧
      ∀ i, shared.lock? i = if k = i then none else s.lock? i) := by
  cases h
  case found device hp hid hslot =>
    refine .inl ⟨by rw [hp]; rfl, ?_⟩
    exact State.lock?_addSlot device
  case lock l pending hp ht =>
    refine .inr (.inl ⟨l.slot, by rw [hp]; rfl, rfl, ?_, ?_⟩)
    . unfold State.lock?
      rw [ht]
      rfl
    . exact State.lock?_setSlot ht _
  case unlock l answer pending hp =>
    exact .inr (.inr ⟨l.slot, by rw [hp]; rfl, rfl, State.lock?_unlock l.slot pending⟩)
  case abandon l hp =>
    refine .inr (.inr ⟨l.slot, ?_, rfl, State.lock?_unlock l.slot none⟩)
    rcases hp with hp | ⟨a, sequence, hp⟩
    . rw [hp]
      rfl
    . rw [hp]
      rfl
  case plan l t a hp ht ha =>
    refine .inl ⟨by rw [hp]; rfl, ?_⟩
    exact State.lock?_setSlot_pending ht _
  case refuse l t r hp ht hr =>
    refine .inl ⟨by rw [hp]; rfl, ?_⟩
    exact State.lock?_setSlot_pending ht _
  case check l answer hp =>
    refine .inl ⟨by rw [hp]; rfl, ?_⟩
    intro i
    unfold State.lock?
    rw [State.slots_dropUnused]
  case join hp _ _ => exact .inl ⟨by rw [hp]; rfl, fun _ => rfl⟩
  case turnAway hp _ => exact .inl ⟨by rw [hp]; rfl, fun _ => rfl⟩
  all_goals next hp => exact .inl ⟨by rw [hp]; rfl, fun _ => rfl⟩

theorem lock_iff (hs : Tidy s) (he : s.errands[n]? = some e) (h : Turn s n e event shared p)
    (k m : Nat) : shared.lock? k = some m ↔ (shared.setPhase n e p).held? m = some k := by
  have hn : s.held? n = e.phase.held? := by
    unfold State.held?
    rw [he]
    rfl
  have hm : shared.held? m = s.held? m := by
    unfold State.held?
    rw [h.errands_eq]
  have hiff := hs.lock_iff k m
  rw [State.held?_setPhase (h.errands_eq ▸ he), hm]
  rcases h.lock?_cases with ⟨hkeep, hlock⟩ | ⟨k', hfree, htake, hopen, hlock⟩ |
    ⟨k', hheld, hgive, hlock⟩
  . rw [hlock, hiff]
    split
    . next hnm => rw [← hnm, hn, hkeep]
    . rfl
  . rw [hlock, htake]
    grind
  . have hown := (hs.lock_iff k' n).2 (hn.trans hheld)
    rw [hlock, hgive]
    grind

theorem addressed (h : Turn s n e event shared p) {l : Lease} {a : Accepted}
    {sequence : Option Sequence} (hp : p = .planned l a sequence) : a.device = l.device := by
  cases h <;> cases hp
  case plan ha => exact Plan.device_of_plan_eq_ok ha

end Turn

variable {s s' : State}

theorem Tidy.turn (hs : Tidy s) {n : Nat} {e : Errand} {event : Event} {shared : State} {p : Phase}
    (he : s.errands[n]? = some e) (h : Turn s n e event shared p) :
    Tidy (shared.setPhase n e p) where
  bounded := h.bounded hs
  apart := h.apart hs
  attended := by
    intro m e' l he' hl
    rw [State.getElem?_errands_setPhase (h.errands_eq ▸ he)] at he'
    split at he'
    . cases he'
      exact h.attended hs he hl
    . next hm =>
      rw [h.errands_eq] at he'
      exact ⟨(hs.attended he' hl).1, h.attended_of_ne hs he (Ne.symm hm) he' hl⟩
  lock_iff := h.lock_iff hs he
  addressed := by
    intro m e' l a sequence he' hp
    rw [State.getElem?_errands_setPhase (h.errands_eq ▸ he)] at he'
    split at he'
    . cases he'
      exact h.addressed hp
    . rw [h.errands_eq] at he'
      exact hs.addressed he' hp

theorem Tidy.step {event : Event} (hs : Tidy s) (h : Step s event s') : Tidy s' := by
  cases h with
  | arrive raw c =>
    refine ⟨hs.bounded, hs.apart, ?_, ?_, ?_⟩
    . intro n e l he hl
      rcases State.getElem?_append_singleton s.errands ⟨raw, c, .arrived⟩ n with h | ⟨_, h⟩
      . exact hs.attended (h.symm.trans he) hl
      . cases h.symm.trans he
        cases hl
    . intro k n
      rw [State.held?_arrive]
      exact hs.lock_iff k n
    . intro n e l a sequence he hp
      rcases State.getElem?_append_singleton s.errands ⟨raw, c, .arrived⟩ n with h | ⟨_, h⟩
      . exact hs.addressed (h.symm.trans he) hp
      . cases h.symm.trans he
        cases hp
  | report r => exact ⟨hs.bounded, hs.apart, hs.attended, hs.lock_iff, hs.addressed⟩
  | turn he h => exact hs.turn he h

theorem tidy_of_run? {final : State} {events : List Event} (h : s.run? events = some final)
    (hs : Tidy s) : Tidy final := by
  induction events generalizing s with
  | nil =>
    cases h
    exact hs
  | cons event events ih =>
    obtain ⟨s', hstep, hrun⟩ := run?_cons_eq_some h
    exact ih hrun (hs.step hstep)

namespace Tidy

variable {s : State} {n : Nat} {e : Errand} {id : DeviceId} {t : Slot} {l : Lease}

theorem exists_errand_of_lockedBy (hs : Tidy s) (ht : s.slotOf? id = some t)
    (hn : t.lockedBy = some n) :
    ∃ e, s.errands[n]? = some e ∧ DeviceId.ofText? e.raw = some id ∧
      e.phase.held?.isSome = true := by
  obtain ⟨k, hk, hslot⟩ := Option.bind_eq_some_iff.1 ht
  have hlock : s.lock? k = some n := by
    unfold State.lock?
    rw [hslot]
    exact hn
  obtain ⟨e, he, hheld⟩ := Option.bind_eq_some_iff.1 ((hs.lock_iff k n).1 hlock)
  obtain ⟨l, hl, rfl⟩ := Phase.exists_attended?_of_held? hheld
  obtain ⟨hraw, htable⟩ := hs.attended he hl
  refine ⟨e, he, ?_, ?_⟩
  . rw [hs.apart hk htable, hraw]
  . rw [hheld]
    rfl

theorem slotOf?_device (hs : Tidy s) (he : s.errands[n]? = some e)
    (hl : e.phase.attended? = some l) : s.slotOf? l.device = s.slots[l.slot]? := by
  unfold State.slotOf?
  rw [(hs.attended he hl).2]
  rfl

theorem slotOf?_setSlot_device (hs : Tidy s) (he : s.errands[n]? = some e)
    (hl : e.phase.attended? = some l) (ht : s.slots[l.slot]? = some t) (t' : Slot) :
    (s.setSlot l.slot t').slotOf? l.device = some t' := by
  have htable : (s.setSlot l.slot t').table.get? l.device = some l.slot := (hs.attended he hl).2
  unfold State.slotOf?
  rw [htable, Option.bind_some, State.getElem?_slots_setSlot ht, if_pos rfl]

theorem exists_slotOf?_of_held (hs : Tidy s) (he : s.errands[n]? = some e)
    (hl : e.phase.attended? = some l) (hheld : e.phase.held? = some l.slot) :
    ∃ t, s.slots[l.slot]? = some t ∧ s.slotOf? l.device = some t ∧ t.lockedBy = some n := by
  have hlock : s.lock? l.slot = some n := by
    rw [hs.lock_iff]
    unfold State.held?
    rw [he]
    exact hheld
  obtain ⟨t, ht, hn⟩ := Option.bind_eq_some_iff.1 hlock
  exact ⟨t, ht, (hs.slotOf?_device he hl).trans ht, hn⟩

theorem slot_ne (hs : Tidy s) (he : s.errands[n]? = some e) (hl : e.phase.attended? = some l)
    (hid : DeviceId.ofText? e.raw ≠ some id) {k : Nat} (hk : s.table.get? id = some k) :
    l.slot ≠ k := by
  obtain ⟨hraw, htable⟩ := hs.attended he hl
  rintro rfl
  rw [hs.apart hk htable] at hid
  exact hid hraw

theorem slotOf?_setSlot_of_ne (hs : Tidy s) (he : s.errands[n]? = some e)
    (hl : e.phase.attended? = some l) (hid : DeviceId.ofText? e.raw ≠ some id)
    (ht : s.slots[l.slot]? = some t) (t' : Slot) :
    (s.setSlot l.slot t').slotOf? id = s.slotOf? id := by
  refine State.slotOf?_congr rfl ?_
  intro k hk
  rw [State.getElem?_slots_setSlot ht, if_neg (hs.slot_ne he hl hid hk)]

theorem slotOf?_unlock_of_ne (hs : Tidy s) (he : s.errands[n]? = some e)
    (hl : e.phase.attended? = some l) (hid : DeviceId.ofText? e.raw ≠ some id)
    (pending : Option Pending) : (s.unlock l.slot pending).slotOf? id = s.slotOf? id := by
  refine State.slotOf?_congr rfl ?_
  intro k hk
  rw [State.getElem?_slots_unlock, if_neg (hs.slot_ne he hl hid hk)]

end Tidy

namespace Turn

variable {s shared : State} {n : Nat} {e : Errand} {event : Event} {p : Phase} {id : DeviceId}

theorem slotOf?_of_ne (hs : Tidy s) (he : s.errands[n]? = some e) (h : Turn s n e event shared p)
    (hid : DeviceId.ofText? e.raw ≠ some id) : shared.slotOf? id = s.slotOf? id := by
  cases h
  case found device hp hraw hslot =>
    have hne : device ≠ id := by
      rintro rfl
      exact hid hraw
    apply State.slotOf?_congr
    . unfold State.addSlot
      dsimp
      rw [Roster.get?_insert, if_neg hne]
    . intro k hk
      exact List.getElem?_append_left (hs.bounded hk)
  case lock l pending hp ht => exact hs.slotOf?_setSlot_of_ne he (by rw [hp]; rfl) hid ht _
  case plan l t a hp ht ha => exact hs.slotOf?_setSlot_of_ne he (by rw [hp]; rfl) hid ht _
  case refuse l t r hp ht hr => exact hs.slotOf?_setSlot_of_ne he (by rw [hp]; rfl) hid ht _
  case unlock l answer pending hp => exact hs.slotOf?_unlock_of_ne he (by rw [hp]; rfl) hid pending
  case abandon l hp =>
    refine hs.slotOf?_unlock_of_ne he ?_ hid none
    rcases hp with hp | ⟨a, sequence, hp⟩ <;> rw [hp] <;> rfl
  case check l answer hp =>
    have hl : e.phase.attended? = some l := by rw [hp]; rfl
    have hne : l.device ≠ id := by
      intro hdevice
      rw [← hdevice] at hid
      exact hid (hs.attended he hl).1
    apply State.slotOf?_congr
    . unfold State.dropUnused
      split
      . dsimp
        rw [Roster.get?_erase, if_neg hne]
      . rfl
    . intro k _
      rw [State.slots_dropUnused]
  all_goals rfl

end Turn
end LockFleet.Concurrent
