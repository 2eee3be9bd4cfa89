import LockFleet.Proofs.Concurrent.Order
import LockFleet.Proofs.Concurrent.Tidy
import LockFleet.Proofs.Dispatch.Traffic

/-!
This module contains what a state of the machine amounts to for a single device, once the errand that has
locked its slot is through: the command that will be pending and the messages that will have been handed
to the broker. Only the planning of an errand changes that, all its other turns make it come true.
-/

namespace LockFleet.Concurrent

open Message (sentTo)

structure Account where
  pending : Option Pending
  messages : List Message

def Account.nothing : Account :=
  ⟨none, []⟩

def Errand.owed (final : Option Answer) (e : Errand) : Account :=
  match e.phase, final with
  | .planned _ a sequence, some (.ok _) => ⟨Pending.ofCommand? e.command sequence, [a.message]⟩
  | .answered _ _ pending, _ => ⟨pending, []⟩
  | _, _ => .nothing

namespace State

def owed (final s : State) (holder : Option Nat) : Account :=
  (holder.bind fun n => (s.errands[n]?).map (Errand.owed (final.answer? n))).getD .nothing

/--
What there will be of a device, where `final` is the last state of the run.
-/
def outlook (final s : State) (id : DeviceId) : Account :=
  match s.slotOf? id with
  | none => ⟨none, sentTo id s.published⟩
  | some t =>
    let owed := final.owed s t.lockedBy
    ⟨owed.pending.or t.pending, sentTo id s.published ++ owed.messages⟩

variable {final s s' : State} {id : DeviceId} {n : Nat} {e : Errand} {t : Slot}

theorem outlook_of_none (h : s.slotOf? id = none) :
    final.outlook s id = ⟨none, sentTo id s.published⟩ := by
  unfold outlook
  rw [h]

theorem outlook_of_free (h : s.slotOf? id = some t) (ht : t.lockedBy = none) :
    final.outlook s id = ⟨t.pending, sentTo id s.published⟩ := by
  unfold outlook
  rw [h]
  dsimp
  rw [ht]
  simp [owed, Account.nothing]

theorem outlook_of_locked (h : s.slotOf? id = some t) (ht : t.lockedBy = some n)
    (he : s.errands[n]? = some e) :
    final.outlook s id
      = ⟨(e.owed (final.answer? n)).pending.or t.pending,
          sentTo id s.published ++ (e.owed (final.answer? n)).messages⟩ := by
  unfold outlook
  rw [h]
  dsimp
  rw [ht]
  simp [owed, he]

theorem outlook_congr (hslot : s'.slotOf? id = s.slotOf? id)
    (hsent : sentTo id s'.published = sentTo id s.published)
    (herrand : ∀ t m, s.slotOf? id = some t → t.lockedBy = some m →
      s'.errands[m]? = s.errands[m]?) :
    final.outlook s' id = final.outlook s id := by
  unfold outlook
  rw [hslot, hsent]
  cases ht : s.slotOf? id with
  | none => rfl
  | some t =>
    dsimp
    unfold owed
    cases hm : t.lockedBy with
    | none => rfl
    | some m =>
      dsimp
      rw [herrand t m ht hm]

end State

namespace Turn

variable {s shared : State} {n : Nat} {e : Errand} {event : Event} {p : Phase} {id : DeviceId}

theorem sentTo_of_ne (hs : Tidy s) (he : s.errands[n]? = some e) (h : Turn s n e event shared p)
    (hid : DeviceId.ofText? e.raw ≠ some id) :
    sentTo id shared.published = sentTo id s.published := by
  cases h
  case publish l a sequence hp =>
    have hl : e.phase.attended? = some l := by rw [hp]; rfl
    have hne : a.device ≠ id := by
      rw [hs.addressed he hp]
      rintro rfl
      exact hid (hs.attended he hl).1
    unfold State.hand
    dsimp
    rw [Message.sentTo_append]
    have hnothing := Message.sentTo_message_of_ne hne
    unfold Accepted.message at hnothing
    rw [hnothing, List.append_nil]
  case check => rw [State.published_dropUnused]
  all_goals rfl

theorem outlook_of_ne (hs : Tidy s) (he : s.errands[n]? = some e) (h : Turn s n e event shared p)
    (hid : DeviceId.ofText? e.raw ≠ some id) (final : State) :
    final.outlook (shared.setPhase n e p) id = final.outlook s id := by
  have hslot := h.slotOf?_of_ne hs he hid
  have hsent := h.sentTo_of_ne hs he hid
  apply State.outlook_congr
  . exact hslot
  . exact hsent
  . intro t m ht hm
    -- The errand that has locked the slot is for this device, so it is not the one whose turn it is.
    have hnm : n ≠ m := by
      rintro rfl
      obtain ⟨e', he', hraw, _⟩ := hs.exists_errand_of_lockedBy ht hm
      cases he.symm.trans he'
      exact hid hraw
    rw [State.getElem?_errands_setPhase (h.errands_eq ▸ he), if_neg hnm, h.errands_eq]

theorem outlook_setPhase_of_idle {s' : State} (hs : Tidy s) (he : s.errands[n]? = some e)
    (hheld : e.phase.held? = none) (hslot : s'.slotOf? id = s.slotOf? id)
    (hsent : s'.published = s.published) (herrands : s'.errands = s.errands) (p : Phase)
    (final : State) : final.outlook (s'.setPhase n e p) id = final.outlook s id := by
  have hsent' : sentTo id (s'.setPhase n e p).published = sentTo id s.published :=
    congrArg (sentTo id) hsent
  rw [← State.slotOf?_setPhase s' n e p] at hslot
  apply State.outlook_congr hslot hsent'
  intro t m ht hm
  have hnm : n ≠ m := by
    rintro rfl
    obtain ⟨e', he', _, hheld'⟩ := hs.exists_errand_of_lockedBy ht hm
    cases he.symm.trans he'
    rw [hheld] at hheld'
    cases hheld'
  rw [State.getElem?_errands_setPhase (herrands ▸ he), if_neg hnm, herrands]

theorem outlook_setPhase_of_locked {t : Slot} (he : s.errands[n]? = some e)
    (ht : s.slotOf? id = some t) (hn : t.lockedBy = some n) (p : Phase) (final : State) :
    final.outlook (s.setPhase n e p) id
      = ⟨(Errand.owed (final.answer? n) { e with phase := p }).pending.or t.pending,
          sentTo id s.published
            ++ (Errand.owed (final.answer? n) { e with phase := p }).messages⟩ := by
  have hafter := State.getElem?_errands_setPhase (m := n) he e p
  rw [if_pos rfl] at hafter
  exact State.outlook_of_locked ht hn hafter

theorem outlook_addSlot {device : DeviceId}
    (hslot : s.table.get? device = none) (p : Phase) (final : State) :
    final.outlook ((s.addSlot device).setPhase n e p) device = final.outlook s device := by
  have hbefore : s.slotOf? device = none := by
    unfold State.slotOf?
    rw [hslot]
    rfl
  have hafter : ((s.addSlot device).setPhase n e p).slotOf? device = some .empty := by
    rw [State.slotOf?_setPhase]
    unfold State.slotOf? State.addSlot
    dsimp
    rw [Roster.get?_insert, if_pos rfl, Option.bind_some, List.getElem?_concat_length]
  rw [State.outlook_of_none hbefore, State.outlook_of_free hafter rfl]
  rfl

theorem outlook_dropUnused {l : Lease} {answer : Option Answer} (hs : Tidy s)
    (he : s.errands[n]? = some e) (hbefore : e.phase = .unlocked l answer) (p : Phase)
    (final : State) :
    final.outlook ((s.dropUnused l).setPhase n e p) l.device = final.outlook s l.device := by
  have hl : e.phase.attended? = some l := by rw [hbefore]; rfl
  have hheld : e.phase.held? = none := by rw [hbefore]; rfl
  by_cases hunused : s.references l.slot = 2 ∧ s.slots[l.slot]? = some .empty
  . have hdrop : s.dropUnused l = { s with table := s.table.erase l.device } := by
      unfold State.dropUnused
      rw [if_pos hunused]
    have hslot : s.slotOf? l.device = some .empty := by
      rw [hs.slotOf?_device he hl, hunused.2]
    have hafter : ((s.dropUnused l).setPhase n e p).slotOf? l.device = none := by
      rw [State.slotOf?_setPhase, hdrop]
      unfold State.slotOf?
      dsimp
      rw [Roster.get?_erase, if_pos rfl]
      rfl
    rw [State.outlook_of_none hafter, State.outlook_of_free hslot rfl, hdrop]
    rfl
  . have hkeep : s.dropUnused l = s := by
      unfold State.dropUnused
      rw [if_neg hunused]
    rw [hkeep]
    exact outlook_setPhase_of_idle hs he hheld rfl rfl rfl p final

theorem outlook_lock {l : Lease} {pending : Option Pending} (hs : Tidy s)
    (he : s.errands[n]? = some e) (hbefore : e.phase = .waiting l)
    (ht : s.slots[l.slot]? = some ⟨pending, none⟩) (final : State) :
    final.outlook ((s.setSlot l.slot ⟨pending, some n⟩).setPhase n e (.locked l)) l.device
      = final.outlook s l.device := by
  have hl : e.phase.attended? = some l := by rw [hbefore]; rfl
  have hslot : s.slotOf? l.device = some ⟨pending, none⟩ := by rw [hs.slotOf?_device he hl, ht]
  have hlocked := hs.slotOf?_setSlot_device he hl ht ⟨pending, some n⟩
  have he' : (s.setSlot l.slot ⟨pending, some n⟩).errands[n]? = some e := he
  rw [outlook_setPhase_of_locked he' hlocked rfl, State.outlook_of_free hslot rfl]
  unfold Errand.owed Account.nothing State.setSlot
  simp

theorem outlook_unlock {l : Lease} {pending : Option Pending} (hs : Tidy s)
    (he : s.errands[n]? = some e) (hl : e.phase.attended? = some l)
    (hheld : e.phase.held? = some l.slot) (p : Phase) {final : State}
    (howed : e.owed (final.answer? n) = ⟨pending, []⟩) :
    final.outlook ((s.unlock l.slot pending).setPhase n e p) l.device
      = final.outlook s l.device := by
  obtain ⟨t, ht, hslot, hn⟩ := hs.exists_slotOf?_of_held he hl hheld
  have hfree : ((s.unlock l.slot pending).setPhase n e p).slotOf? l.device
      = some ⟨pending.or t.pending, none⟩ := by
    have htable : (s.unlock l.slot pending).table.get? l.device = some l.slot :=
      (hs.attended he hl).2
    rw [State.slotOf?_setPhase]
    unfold State.slotOf?
    rw [htable, Option.bind_some, State.getElem?_slots_unlock, if_pos rfl, ht]
    rfl
  rw [State.outlook_of_free hfree rfl, State.outlook_of_locked hslot hn he, howed,
    List.append_nil]
  rfl

theorem outlook_publish {l : Lease} {a : Accepted} {sequence : Option Sequence} (hs : Tidy s)
    (he : s.errands[n]? = some e) (hbefore : e.phase = .planned l a sequence) {final : State}
    (hanswer : final.answer? n = some (.ok a)) :
    final.outlook ((s.hand a).setPhase n e
        (.answered l (.ok a) (Pending.ofCommand? e.command sequence))) l.device
      = final.outlook s l.device := by
  have hl : e.phase.attended? = some l := by rw [hbefore]; rfl
  obtain ⟨t, _, hslot, hn⟩ := hs.exists_slotOf?_of_held he hl (by rw [hbefore]; rfl)
  have hsent := Message.sentTo_message_of_eq (hs.addressed he hbefore)
  have he' : (s.hand a).errands[n]? = some e := he
  have hslot' : (s.hand a).slotOf? l.device = some t := hslot
  rw [outlook_setPhase_of_locked he' hslot' hn, State.outlook_of_locked hslot hn he, hanswer]
  unfold Errand.owed State.hand
  rw [hbefore]
  dsimp
  rw [Message.sentTo_append, List.append_nil]
  unfold Accepted.message at hsent ⊢
  rw [hsent]

theorem outlook_fail {l : Lease} {a : Accepted} {sequence : Option Sequence}
    {failure : PublishError} (hs : Tidy s) (he : s.errands[n]? = some e)
    (hbefore : e.phase = .planned l a sequence) {final : State}
    (hanswer : final.answer? n = some (.error (.unpublished failure))) :
    final.outlook (s.setPhase n e (.answered l (.error (.unpublished failure)) none)) l.device
      = final.outlook s l.device := by
  have hl : e.phase.attended? = some l := by rw [hbefore]; rfl
  obtain ⟨t, _, hslot, hn⟩ := hs.exists_slotOf?_of_held he hl (by rw [hbefore]; rfl)
  rw [outlook_setPhase_of_locked he hslot hn, State.outlook_of_locked hslot hn he, hanswer]
  unfold Errand.owed
  rw [hbefore]
  rfl

theorem outlook_of_phase_locked {l : Lease} {t : Slot} (hs : Tidy s) (he : s.errands[n]? = some e)
    (hbefore : e.phase = .locked l) (ht : s.slots[l.slot]? = some t) (final : State) :
    final.outlook s l.device = ⟨t.pending, sentTo l.device s.published⟩ := by
  have hl : e.phase.attended? = some l := by rw [hbefore]; rfl
  obtain ⟨t', ht', hslot, hn⟩ := hs.exists_slotOf?_of_held he hl (by rw [hbefore]; rfl)
  cases ht.symm.trans ht'
  rw [State.outlook_of_locked hslot hn he]
  unfold Errand.owed
  rw [hbefore]
  dsimp [Account.nothing]
  rw [List.append_nil]

theorem outlook_plan {l : Lease} {t : Slot} (hs : Tidy s) (he : s.errands[n]? = some e)
    (hbefore : e.phase = .locked l) (ht : s.slots[l.slot]? = some t) (pending : Option Pending)
    (p : Phase) (final : State) :
    final.outlook ((s.setSlot l.slot { t with pending := pending }).setPhase n e p) l.device
      = ⟨(Errand.owed (final.answer? n) { e with phase := p }).pending.or pending,
          sentTo l.device s.published
            ++ (Errand.owed (final.answer? n) { e with phase := p }).messages⟩ := by
  have hl : e.phase.attended? = some l := by rw [hbefore]; rfl
  obtain ⟨t', ht', _, hn⟩ := hs.exists_slotOf?_of_held he hl (by rw [hbefore]; rfl)
  cases ht.symm.trans ht'
  have hslot := hs.slotOf?_setSlot_device he hl ht { t with pending := pending }
  have he' : (s.setSlot l.slot { t with pending := pending }).errands[n]? = some e := he
  exact outlook_setPhase_of_locked he' hslot hn p final

theorem outlook_eq (hs : Tidy s) (he : s.errands[n]? = some e) (h : Turn s n e event shared p)
    {final : State} (hp : p.Admits (final.answer? n)) (hplan : event ≠ .plan n)
    (id : DeviceId) : final.outlook (shared.setPhase n e p) id = final.outlook s id := by
  by_cases hid : DeviceId.ofText? e.raw = some id
  case neg => exact h.outlook_of_ne hs he hid final
  have device : ∀ {l : Lease}, e.phase.attended? = some l → id = l.device := by
    intro l hl
    have := (hs.attended he hl).1
    rw [hid] at this
    exact Option.some.inj this
  cases h
  -- Whatever the errand owed before its turn is paid by it, or still owed after it.
  case turnAway hbefore hraw =>
    rw [hraw] at hid
    cases hid
  case found device hbefore hraw hslot =>
    rw [hraw] at hid
    cases hid
    exact outlook_addSlot hslot _ final
  case lock l pending hbefore ht =>
    rw [device (by rw [hbefore]; rfl)]
    exact outlook_lock hs he hbefore ht final
  case plan => exact absurd rfl hplan
  case refuse => exact absurd rfl hplan
  case publish l a sequence hbefore =>
    rw [device (by rw [hbefore]; rfl)]
    exact outlook_publish hs he hbefore hp
  case fail l a sequence failure hbefore =>
    rw [device (by rw [hbefore]; rfl)]
    exact outlook_fail hs he hbefore hp
  case unlock l answer pending hbefore =>
    rw [device (by rw [hbefore]; rfl)]
    apply outlook_unlock hs he (by rw [hbefore]; rfl) (by rw [hbefore]; rfl)
    unfold Errand.owed
    rw [hbefore]
  case abandon l hbefore =>
    have hanswer : final.answer? n = none := hp
    rcases hbefore with hbefore | ⟨a, sequence, hbefore⟩
    . rw [device (by rw [hbefore]; rfl)]
      apply outlook_unlock hs he (by rw [hbefore]; rfl) (by rw [hbefore]; rfl)
      unfold Errand.owed
      rw [hbefore]
      rfl
    . rw [device (by rw [hbefore]; rfl)]
      apply outlook_unlock hs he (by rw [hbefore]; rfl) (by rw [hbefore]; rfl)
      unfold Errand.owed
      rw [hbefore, hanswer]
      rfl
  case check l answer hbefore =>
    rw [device (by rw [hbefore]; rfl)]
    exact outlook_dropUnused hs he hbefore _ final
  all_goals
    apply outlook_setPhase_of_idle hs he _ rfl rfl rfl
    rw [‹e.phase = _›]
    rfl

end Turn
end LockFleet.Concurrent
