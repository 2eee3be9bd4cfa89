import LockFleet.Proofs.Concurrent.Serial
import LockFleet.Proofs.Roster

/-!
This module contains what is left of the slots once no errand is under way. The last errand to see to a
slot drops it from the table, unless a command is pending in it. But a slot stays behind with nothing in it
if two errands see to it before either of them has given its reference back, for each counts the other.
-/

namespace LockFleet.Concurrent

namespace Phase

def due? : Phase → Option Nat
  | unlocked l _ => some l.slot
  | arrived | waiting _ | locked _ | planned _ _ _ | answered _ _ _ | checked _ _ | gone _ => none

def lingering? : Phase → Option Nat
  | checked l _ => some l.slot
  | arrived | waiting _ | locked _ | planned _ _ _ | answered _ _ _ | unlocked _ _ | gone _ => none

theorem slot?_eq_some_iff {p : Phase} {k : Nat} :
    p.slot? = some k ↔ (∃ l, p.attended? = some l ∧ l.slot = k) ∨ p.lingering? = some k := by
  cases p <;> simp [slot?, lease?, attended?, lingering?]

theorem due?_eq_some_iff {p : Phase} {k : Nat} :
    p.due? = some k ↔ ∃ l answer, p = .unlocked l answer ∧ l.slot = k := by
  cases p <;> simp [due?]

end Phase

theorem countP_eq_one {α : Type} {q : α → Bool} {as : List α} {i : Nat} {a : α}
    (hi : as[i]? = some a) (ha : q a = true)
    (hother : ∀ j b, as[j]? = some b → q b = true → j = i) : as.countP q = 1 := by
  obtain ⟨hlt, hget⟩ := List.getElem?_eq_some_iff.1 hi
  have hbefore : (as.take i).countP q = 0 := by
    rw [List.countP_eq_zero]
    intro b hb hq
    obtain ⟨j, hj⟩ := List.mem_iff_getElem?.1 hb
    rw [List.getElem?_take] at hj
    split at hj
    . next hji =>
      have := hother j b hj hq
      omega
    . cases hj
  have hafter : (as.drop (i + 1)).countP q = 0 := by
    rw [List.countP_eq_zero]
    intro b hb hq
    obtain ⟨j, hj⟩ := List.mem_iff_getElem?.1 hb
    rw [List.getElem?_drop] at hj
    have := hother _ b hj hq
    omega
  have hsplit := List.take_append_drop i as
  rw [List.drop_eq_getElem_cons hlt, hget] at hsplit
  rw [← hsplit, List.countP_append, List.countP_cons, hbefore, hafter, if_pos ha]

namespace State

def lingers (s : State) (k : Nat) : Bool :=
  s.errands.any fun e => e.phase.lingering? == some k

def checked? (s : State) : Event → Option Nat
  | .check n => (s.errands[n]?).bind fun e => e.phase.due?
  | _ => none

/--
Whether a slot was crowded when it was last seen to, which is to say that an errand still referred to it
that had seen to it before. It is `last` if the slot is not seen to in the course of the events.
-/
def crowded (s : State) (k : Nat) (last : Bool) : List Event → Bool
  | [] => last
  | event :: events =>
    let next := if s.checked? event = some k then s.lingers k else last
    match s.step? event with
    | some s' => s'.crowded k next events
    | none => next

def IsAttended (s : State) (k : Nat) : Prop :=
  ∃ (n : Nat) (e : Errand) (l : Lease),
    s.errands[n]? = some e ∧ e.phase.attended? = some l ∧ l.slot = k

def IsLeftTo (s : State) (n k : Nat) : Prop :=
  ∀ (m : Nat) (e : Errand) (l : Lease),
    s.errands[m]? = some e → e.phase.attended? = some l → l.slot = k → m = n

variable {s s' : State} {n k : Nat} {e : Errand} {l : Lease} {answer : Option Answer} {event : Event}

theorem lingers_eq_true_iff :
    s.lingers k = true ↔
      ∃ (n : Nat) (e : Errand), s.errands[n]? = some e ∧ e.phase.lingering? = some k := by
  unfold lingers
  simp only [List.any_eq_true, beq_iff_eq]
  constructor
  . rintro ⟨e, he, hk⟩
    obtain ⟨n, hn⟩ := List.mem_iff_getElem?.1 he
    exact ⟨n, e, hn, hk⟩
  . rintro ⟨n, e, hn, hk⟩
    exact ⟨e, List.mem_of_getElem? hn, hk⟩

theorem checked?_eq_some (h : s.checked? event = some k) :
    ∃ (n : Nat) (e : Errand) (l : Lease) (answer : Option Answer), event = .check n ∧
      s.errands[n]? = some e ∧ e.phase = .unlocked l answer ∧ l.slot = k := by
  cases event
  case check n =>
    obtain ⟨e, he, hdue⟩ := Option.bind_eq_some_iff.1 h
    obtain ⟨l, answer, hp, hk⟩ := Phase.due?_eq_some_iff.1 hdue
    exact ⟨n, e, l, answer, rfl, he, hp, hk⟩
  all_goals cases h

theorem countP_entries_eq_one (hs : Tidy s) {id : DeviceId} (hk : s.table.get? id = some k) :
    (s.table.entries.countP fun entry => entry.2 == k) = 1 := by
  have hmem := Roster.get?_eq_some_iff.1 hk
  obtain ⟨i, hi⟩ := List.mem_iff_getElem?.1 hmem
  refine countP_eq_one hi (beq_iff_eq.2 rfl) ?_
  intro j entry hj hentry
  have hid : entry.1 = id := by
    apply hs.apart _ hk
    rw [Roster.get?_eq_some_iff, ← beq_iff_eq.1 hentry]
    exact List.mem_of_getElem? hj
  have hnodup := s.table.nodup_devices
  have hlt : j < (s.table.entries.map Prod.fst).length := by
    rw [List.length_map]
    exact (List.getElem?_eq_some_iff.1 hj).1
  apply (List.getElem?_inj hlt hnodup).1
  rw [List.getElem?_map, List.getElem?_map, hi, hj]
  exact congrArg some hid

theorem references_eq_two_iff (hs : Tidy s) (he : s.errands[n]? = some e)
    (hp : e.phase = .unlocked l answer) (hleft : s.IsLeftTo n l.slot) :
    s.references l.slot = 2 ↔ s.lingers l.slot = false := by
  have hl : e.phase.attended? = some l := by rw [hp]; rfl
  have hslot : e.phase.slot? = some l.slot := Phase.slot?_of_attended? hl
  have htable := (hs.attended he hl).2
  constructor
  . intro htwo
    apply Bool.eq_false_iff.2
    intro hlingers
    obtain ⟨m, e', he', hlingering⟩ := lingers_eq_true_iff.1 hlingers
    have hslot' : e'.phase.slot? = some l.slot := Phase.slot?_eq_some_iff.2 (.inr hlingering)
    obtain rfl := eq_of_references_eq_two htwo htable he hslot he' hslot'
    cases he.symm.trans he'
    rw [hp] at hlingering
    cases hlingering
  . intro hlingers
    have hone : (s.errands.countP fun e => e.phase.slot? == some l.slot) = 1 := by
      refine countP_eq_one he (beq_iff_eq.2 hslot) ?_
      intro m e' he' hslot'
      rcases Phase.slot?_eq_some_iff.1 (beq_iff_eq.1 hslot') with ⟨l', hl', hk⟩ | hlingering
      . exact hleft m e' l' he' hl' hk
      . rw [lingers_eq_true_iff.2 ⟨m, e', he', hlingering⟩] at hlingers
        cases hlingers
    unfold references
    rw [countP_entries_eq_one hs htable, hone]

theorem lockedBy_eq_none {t : Slot} (hs : Tidy s) (ht : s.slots[k]? = some t)
    (hheld : ∀ n, s.held? n ≠ some k) : t.lockedBy = none := by
  apply Option.eq_none_iff_forall_ne_some.2
  intro n hn
  apply hheld n
  rw [← hs.lock_iff]
  unfold lock?
  rw [ht]
  exact hn

theorem exists_get?_dropUnused_iff (hs : Tidy s) (hk : s.table.get? l.device = some l.slot) :
    (∃ id, (s.dropUnused l).table.get? id = some l.slot) ↔
      ¬(s.references l.slot = 2 ∧ s.slots[l.slot]? = some .empty) := by
  unfold dropUnused
  split
  . next hunused =>
    refine iff_of_false ?_ (not_not_intro hunused)
    rintro ⟨id, hid⟩
    rw [Roster.get?_erase] at hid
    split at hid
    . cases hid
    . next hne => exact hne (hs.apart hk hid)
  . next hused => exact iff_of_true ⟨l.device, hk⟩ hused

theorem dropUnused_retains {t : Slot} (hs : Tidy s) (he : s.errands[n]? = some e)
    (hp : e.phase = .unlocked l answer) (hleft : s.IsLeftTo n l.slot)
    (ht : s.slots[l.slot]? = some t) :
    (∃ id, (s.dropUnused l).table.get? id = some l.slot) ↔
      t.pending.isSome = true ∨ s.lingers l.slot = true := by
  have hl : e.phase.attended? = some l := by rw [hp]; rfl
  have hfree : t.lockedBy = none := by
    apply lockedBy_eq_none hs ht
    intro m hheld
    obtain ⟨e', he', hheld'⟩ := Option.bind_eq_some_iff.1 hheld
    obtain ⟨l', hl', hk⟩ := Phase.exists_attended?_of_held? hheld'
    obtain rfl := hleft m e' l' he' hl' hk
    cases he.symm.trans he'
    rw [hp] at hheld'
    cases hheld'
  have hempty : s.slots[l.slot]? = some .empty ↔ t.pending.isSome = false := by
    rw [ht]
    obtain ⟨pending, lockedBy⟩ := t
    cases hfree
    cases pending <;> simp [Slot.empty]
  rw [exists_get?_dropUnused_iff hs (hs.attended he hl).2, references_eq_two_iff hs he hp hleft, hempty]
  cases t.pending.isSome <;> cases s.lingers l.slot <;> simp

end State

namespace Turn

variable {s shared : State} {n k : Nat} {e : Errand} {event : Event} {p : Phase} {l : Lease}

theorem attended?_eq_or_eq_check (h : Turn s n e event shared p)
    (hl : e.phase.attended? = some l) :
    p.attended? = some l ∨
      ∃ answer, e.phase = .unlocked l answer ∧ event = .check n ∧ shared = s.dropUnused l := by
  cases h
  case check l' answer hbefore =>
    rw [hbefore] at hl
    cases hl
    exact .inr ⟨answer, hbefore, rfl, rfl⟩
  case abandon hbefore =>
    rcases hbefore with hbefore | ⟨a, sequence, hbefore⟩
    . rw [hbefore] at hl
      exact .inl hl
    . rw [hbefore] at hl
      exact .inl hl
  all_goals
    rw [‹e.phase = _›] at hl
    first
    | exact .inl hl
    | cases hl

theorem getElem?_slots_of_not_attended (h : Turn s n e event shared p)
    (hafter : ∀ l, p.attended? = some l → l.slot ≠ k) : shared.slots[k]? = s.slots[k]? := by
  cases h
  case found device hp hid hslot =>
    have hne : s.slots.length ≠ k := hafter ⟨device, s.slots.length⟩ rfl
    rcases State.getElem?_append_singleton s.slots .empty k with h | ⟨hnone, h⟩
    . exact h
    . obtain ⟨hlt, _⟩ := List.getElem?_eq_some_iff.1 h
      rw [List.length_append, List.length_singleton] at hlt
      have := List.getElem?_eq_none_iff.1 hnone
      omega
  case lock l pending hp ht =>
    rw [State.getElem?_slots_setSlot ht, if_neg (hafter l rfl)]
  case plan l t a hp ht ha =>
    rw [State.getElem?_slots_setSlot ht, if_neg (hafter l rfl)]
  case refuse l t r hp ht hr =>
    rw [State.getElem?_slots_setSlot ht, if_neg (hafter l rfl)]
  case unlock l answer pending hp =>
    rw [State.getElem?_slots_unlock, if_neg (hafter l rfl)]
  case abandon l hp =>
    rw [State.getElem?_slots_unlock, if_neg (hafter l rfl)]
  case check l answer hp => rw [State.slots_dropUnused]
  all_goals rfl

theorem exists_get?_iff_of_not_attended (hs : Tidy s) (he : s.errands[n]? = some e)
    (h : Turn s n e event shared p) (hbefore : ∀ l, e.phase.attended? = some l → l.slot ≠ k)
    (hafter : ∀ l, p.attended? = some l → l.slot ≠ k) :
    (∃ id, shared.table.get? id = some k) ↔ ∃ id, s.table.get? id = some k := by
  apply exists_congr
  intro id
  cases h
  case found device hp hid hslot =>
    have hne : s.slots.length ≠ k := hafter ⟨device, s.slots.length⟩ rfl
    unfold State.addSlot
    dsimp only
    rw [Roster.get?_insert]
    split
    . next heq =>
      rw [← heq, hslot]
      simp [hne]
    . rfl
  case check l answer hp =>
    have hl : e.phase.attended? = some l := by rw [hp]; rfl
    have htable := (hs.attended he hl).2
    unfold State.dropUnused
    split
    . rw [Roster.get?_erase]
      split
      . next heq =>
        rw [← heq, htable]
        simp [hbefore l hl]
      . rfl
    . rfl
  all_goals rfl

end Turn

/--
What holds of the slots to which no errand will see any more: such a slot is still in the table just if a
command is pending in it, or it was crowded when it was last seen to.
-/
def Retains (s : State) (crowded : Nat → Bool) : Prop :=
  ∀ (k : Nat) (t : Slot), s.slots[k]? = some t → ¬s.IsAttended k →
    ((∃ id, s.table.get? id = some k) ↔ t.pending.isSome = true ∨ crowded k = true)

namespace Retains

variable {s s' final : State} {crowded : Nat → Bool} {event : Event}

theorem empty (crowded : Nat → Bool) : Retains .empty crowded := by
  intro k t ht
  cases ht

theorem turn (hr : Retains s crowded) (hs : Tidy s) {n : Nat} {e : Errand} {shared : State}
    {p : Phase} (he : s.errands[n]? = some e) (h : Turn s n e event shared p) :
    Retains (shared.setPhase n e p) fun k =>
      if s.checked? event = some k then s.lingers k else crowded k := by
  intro k t ht hattended
  have herrand := fun m => State.getElem?_errands_setPhase (m := m) (h.errands_eq ▸ he) e p
  have hafter : ∀ l, p.attended? = some l → l.slot ≠ k := by
    intro l hl hk
    apply hattended
    exact ⟨n, { e with phase := p }, l, by rw [herrand n, if_pos rfl], hl, hk⟩
  have hleft : s.IsLeftTo n k := by
    intro m e' l' he' hl' hk
    apply Decidable.byContradiction
    intro hne
    apply hattended
    exact ⟨m, e', l', by rw [herrand m, if_neg (Ne.symm hne), h.errands_eq, he'], hl', hk⟩
  by_cases hbefore : ∀ l, e.phase.attended? = some l → l.slot ≠ k
  case pos =>
    have hunchecked : s.checked? event ≠ some k := by
      intro hchecked
      obtain ⟨m, e', l, answer, rfl, he', hphase, hk⟩ := State.checked?_eq_some hchecked
      cases h.errand?_eq
      cases he.symm.trans he'
      exact hbefore l (by rw [hphase]; rfl) hk
    have hunattended : ¬s.IsAttended k := by
      rintro ⟨m, e', l, he', hl, hk⟩
      obtain rfl := hleft m e' l he' hl hk
      cases he.symm.trans he'
      exact hbefore l hl hk
    dsimp only
    rw [if_neg hunchecked]
    have hslot := h.getElem?_slots_of_not_attended hafter
    have htable := h.exists_get?_iff_of_not_attended hs he hbefore hafter
    exact htable.trans (hr k t (hslot.symm.trans ht) hunattended)
  case neg =>
    -- The errand was the last one to see to the slot.
    obtain ⟨l, hbefore⟩ := Classical.not_forall.1 hbefore
    obtain ⟨hl, hk⟩ := Classical.not_imp.1 hbefore
    obtain rfl := Classical.not_not.1 hk
    obtain ⟨answer, hphase, rfl, rfl⟩ :=
      (h.attended?_eq_or_eq_check hl).resolve_left fun hp => hafter l hp rfl
    have hchecked : s.checked? (.check n) = some l.slot := by
      unfold State.checked?
      dsimp only
      rw [he, Option.bind_some, hphase]
      rfl
    have ht' : (s.dropUnused l).slots[l.slot]? = some t := ht
    rw [State.slots_dropUnused] at ht'
    dsimp only
    rw [if_pos hchecked]
    exact State.dropUnused_retains hs he hphase hleft ht'

theorem step (hr : Retains s crowded) (hs : Tidy s) (h : Step s event s') :
    Retains s' fun k => if s.checked? event = some k then s.lingers k else crowded k := by
  cases h with
  | arrive raw c =>
    intro k t ht hattended
    apply hr k t ht
    rintro ⟨n, e, l, he, hl, hk⟩
    apply hattended
    refine ⟨n, e, l, ?_, hl, hk⟩
    exact (List.getElem?_append_left (List.getElem?_eq_some_iff.1 he).1).trans he
  | report r => exact hr
  | turn he h => exact hr.turn hs he h

theorem run {events : List Event} (hr : Retains s crowded) (hs : Tidy s)
    (h : s.run? events = some final) :
    Retains final fun k => s.crowded k (crowded k) events := by
  induction events generalizing s crowded with
  | nil =>
    cases h
    exact hr
  | cons event events ih =>
    rw [State.run?_cons] at h
    obtain ⟨s', hstep?, hrun⟩ := Option.bind_eq_some_iff.1 h
    have hstep := step_of_step? hstep?
    simp only [State.crowded, hstep?]
    exact ih (hr.step hs hstep) (hs.step hstep) hrun

end Retains

namespace State

variable {s : State} {k : Nat} {t : Slot} {id : DeviceId}

theorem not_isAttended_of_not_isBusy (hidle : s.isBusy = false) (k : Nat) : ¬s.IsAttended k := by
  rintro ⟨n, e, l, he, hl, _⟩
  unfold isBusy at hidle
  rw [List.any_eq_false] at hidle
  apply hidle e (List.mem_of_getElem? he)
  rw [Phase.slot?_of_attended? hl]
  rfl

theorem lockedBy_of_not_isBusy (hs : Tidy s) (hidle : s.isBusy = false)
    (ht : s.slots[k]? = some t) : t.lockedBy = none := by
  apply lockedBy_eq_none hs ht
  intro n hheld
  obtain ⟨e, he, hheld'⟩ := Option.bind_eq_some_iff.1 hheld
  obtain ⟨l, hl, hk⟩ := Phase.exists_attended?_of_held? hheld'
  exact not_isAttended_of_not_isBusy hidle k ⟨n, e, l, he, hl, hk⟩

theorem timely_of_not_isBusy {events : List Event} (h : empty.run? events = some s)
    (hidle : s.isBusy = false) (hk : s.table.get? id = some k) (ht : s.slots[k]? = some t) :
    Pending.Timely (s.registry.get? id) t.pending := by
  have hs := tidy_of_run? h tidy_empty
  have hslot : s.slotOf? id = some t := by
    unfold slotOf?
    rw [hk, Option.bind_some, ht]
  obtain ⟨_, hfollows⟩ := replays_moments h tidy_empty (.empty s)
  have htimely := (hfollows.pending id).right
  rwa [outlook_of_free hslot (lockedBy_of_not_isBusy hs hidle ht)] at htimely

/--
Whether the table holds no more than the commands that wait for a report: in every slot of it a command is
pending that was checked against a record of the device, or an older one. So it has no more slots than
there are devices in the registry.
-/
def LeaksNoSlot (s : State) : Prop :=
  (∀ id k, s.table.get? id = some k → ∃ t p r, s.slots[k]? = some t ∧ t.pending = some p ∧
    s.registry.get? id = some r ∧ p.sequence.value ≤ r.sequence.value) ∧
  s.table.size ≤ s.registry.records.size

theorem leaksNoSlot_iff {events : List Event} (h : empty.run? events = some s)
    (hidle : s.isBusy = false) :
    s.LeaksNoSlot ↔
      ∀ k t, s.slots[k]? = some t → empty.crowded k false events = true →
        t.pending.isSome = true := by
  have hs := tidy_of_run? h tidy_empty
  have hretains := (Retains.empty fun _ => false).run tidy_empty h
  constructor
  . intro hleaks k t ht hcrowded
    have hunattended := not_isAttended_of_not_isBusy hidle k
    obtain ⟨id, hid⟩ := (hretains k t ht hunattended).2 (.inr hcrowded)
    obtain ⟨t', p, _, ht', hp, _⟩ := hleaks.1 id k hid
    cases ht.symm.trans ht'
    rw [hp]
    rfl
  . intro hcrowded
    have hheld : ∀ id k, s.table.get? id = some k → ∃ t p r, s.slots[k]? = some t ∧
        t.pending = some p ∧ s.registry.get? id = some r ∧
        p.sequence.value ≤ r.sequence.value := by
      intro id k hk
      obtain ⟨t, ht⟩ : ∃ t, s.slots[k]? = some t := ⟨_, List.getElem?_eq_getElem (hs.bounded hk)⟩
      have hsome : t.pending.isSome = true := by
        have hunattended := not_isAttended_of_not_isBusy hidle k
        rcases (hretains k t ht hunattended).1 ⟨id, hk⟩ with hpending | hlast
        . exact hpending
        . exact hcrowded k t ht hlast
      obtain ⟨p, hp⟩ := Option.isSome_iff_exists.1 hsome
      obtain ⟨r, hr, hle⟩ := timely_of_not_isBusy h hidle hk ht p hp
      exact ⟨t, p, r, ht, hp, hr, hle⟩
    refine ⟨hheld, ?_⟩
    apply Roster.size_le_of_forall_isSome
    intro id k hk
    obtain ⟨_, _, r, _, _, hr, _⟩ := hheld id k hk
    exact Option.isSome_iff_exists.2 ⟨r, hr⟩

def overlappingReservation : List Event :=
  [.report (.ingest ⟨0, 0⟩ "esp/status/aa" "available" none), .arrive "aa" .reserve,
    .arrive "aa" .requestStatus, .lease 0, .lease 1, .lock 0, .plan 0, .publish 0 (.ok ()),
    .unlock 0, .lock 1, .plan 1, .publish 1 (.ok ()), .unlock 1,
    -- Both errands see to the slot before either of them gives its reference back.
    .check 0, .check 1, .leave 0, .leave 1]

theorem leaksNoSlot_overlappingReservation :
    ∃ s, empty.run? overlappingReservation = some s ∧ s.isBusy = false ∧ s.table.size = 1 ∧
      empty.crowded 0 false overlappingReservation = true ∧
      (s.LeaksNoSlot ↔ ∀ k t, s.slots[k]? = some t →
        empty.crowded k false overlappingReservation = true → t.pending.isSome = true) ∧
      s.LeaksNoSlot := by
  have hrun : ((empty.run? overlappingReservation).map fun s =>
      (s.isBusy, s.table.size, s.slots.map fun t => t.pending.isSome))
        = some (false, 1, [true]) := by
    decide +kernel
  obtain ⟨s, hs, hvalues⟩ := Option.map_eq_some_iff.1 hrun
  obtain ⟨hidle, hrest⟩ := Prod.mk.inj hvalues
  obtain ⟨htable, hpending⟩ := Prod.mk.inj hrest
  have hiff := leaksNoSlot_iff hs hidle
  refine ⟨s, hs, hidle, htable, by decide +kernel, hiff, hiff.2 ?_⟩
  intro k t ht _
  have hmem : t.pending.isSome ∈ s.slots.map fun t => t.pending.isSome :=
    List.mem_map_of_mem (List.mem_of_getElem? ht)
  rw [hpending] at hmem
  exact List.mem_singleton.1 hmem

def overlapping : List Event :=
  [.arrive "aa" .requestStatus, .arrive "aa" .requestStatus, .lease 0, .lease 1, .lock 0, .plan 0,
    .publish 0 (.ok ()), .unlock 0, .lock 1, .plan 1, .publish 1 (.ok ()), .unlock 1,
    .check 0, .check 1, .leave 0, .leave 1]

theorem not_leaksNoSlot_overlapping :
    ∃ s, empty.run? overlapping = some s ∧ s.isBusy = false ∧ s.table.size = 1 ∧
      s.registry.records.size = 0 ∧ ¬s.LeaksNoSlot := by
  have hrun : ((empty.run? overlapping).map fun s =>
      (s.isBusy, s.table.size, s.registry.records.size)) = some (false, 1, 0) := by
    decide +kernel
  obtain ⟨s, hs, hvalues⟩ := Option.map_eq_some_iff.1 hrun
  obtain ⟨hidle, hsizes⟩ := Prod.mk.inj hvalues
  obtain ⟨htable, hrecords⟩ := Prod.mk.inj hsizes
  refine ⟨s, hs, hidle, htable, hrecords, ?_⟩
  intro hleaks
  have hle := hleaks.2
  omega

end State
end LockFleet.Concurrent
