import LockFleet.Proofs.Concurrent.Outlook

/-!
This module contains the proof that errands which run at the same time are answered, and send their
messages, as if they ran one after the other.
-/

namespace LockFleet.Concurrent

open Message (sentTo)
open Pending (Alike current? ofAnswer?)

/--
A dispatcher that runs one errand after the other is up to date with a state of the machine if it has
seen the same reports and has come as far with every device as the machine is bound to come.
-/
structure Follows (final s : State) (d : Dispatch) : Prop where
  registry_eq : d.registry = s.registry
  pending : ∀ id, Alike (s.registry.get? id) (d.pending.get? id) (final.outlook s id).pending
  sent : ∀ id, sentTo id d.published = (final.outlook s id).messages

namespace Follows

variable {final s s' : State} {d : Dispatch} {n : Nat} {e : Errand} {l : Lease} {t : Slot}

theorem empty (final : State) : Follows final .empty .empty := by
  refine ⟨rfl, ?_, ?_⟩
  . intro id
    exact Alike.refl (Pending.timely_none _)
  . intro id
    rfl

theorem of_outlook_eq (hf : Follows final s d) (hregistry : s'.registry = s.registry)
    (houtlook : ∀ id, final.outlook s' id = final.outlook s id) : Follows final s' d := by
  refine ⟨hf.registry_eq.trans hregistry.symm, ?_, ?_⟩
  . intro id
    rw [hregistry, houtlook]
    exact hf.pending id
  . intro id
    rw [houtlook]
    exact hf.sent id

theorem report (hf : Follows final s d) (r : Registry.Event) :
    Follows final { s with registry := s.registry.step r }
      { d with registry := d.registry.step r } := by
  refine ⟨congrArg (·.step r) hf.registry_eq, ?_, hf.sent⟩
  intro id
  exact (hf.pending id).later (Registry.later_step s.registry r id)

theorem assumedRecord?_eq (hf : Follows final s d) (hs : Tidy s) (he : s.errands[n]? = some e)
    (hbefore : e.phase = .locked l) (ht : s.slots[l.slot]? = some t) :
    d.assumedRecord? l.device = (s.registry.get? l.device).map (Pending.assume t.pending) := by
  have halike := hf.pending l.device
  rw [Turn.outlook_of_phase_locked hs he hbefore ht] at halike
  unfold Dispatch.assumedRecord?
  rw [hf.registry_eq, halike.map_assume_eq]

theorem planned {d' : Dispatch} {shared : State} {event : Event} {p : Phase}
    (hf : Follows final s d) (hs : Tidy s) (he : s.errands[n]? = some e)
    (hbefore : e.phase = .locked l) (ht : s.slots[l.slot]? = some t)
    (h : Turn s n e event shared p)
    (hshared : shared = s.setSlot l.slot { t with
      pending := current? t.pending (s.registry.get? l.device) })
    {owed : Account} (howed : Errand.owed (final.answer? n) { e with phase := p } = owed)
    (hregistry : d'.registry = d.registry)
    (hother : ∀ id, l.device ≠ id → d'.pending.get? id = d.pending.get? id ∧
      sentTo id d'.published = sentTo id d.published)
    (hpending : Alike (s.registry.get? l.device) (d'.pending.get? l.device)
      (owed.pending.or (current? t.pending (s.registry.get? l.device))))
    (hsent : sentTo l.device d'.published = sentTo l.device s.published ++ owed.messages) :
    Follows final (shared.setPhase n e p) d' := by
  have hl : e.phase.attended? = some l := by rw [hbefore]; rfl
  have hraw := (hs.attended he hl).1
  have hshared' : (shared.setPhase n e p).registry = s.registry := h.registry_eq
  have other : ∀ {id}, l.device ≠ id →
      final.outlook (shared.setPhase n e p) id = final.outlook s id := by
    intro id hne
    apply h.outlook_of_ne hs he
    rw [hraw]
    exact fun heq => hne (Option.some.inj heq)
  have own : final.outlook (shared.setPhase n e p) l.device
      = ⟨owed.pending.or (current? t.pending (s.registry.get? l.device)),
        sentTo l.device s.published ++ owed.messages⟩ := by
    rw [hshared, Turn.outlook_plan hs he hbefore ht, howed]
  refine ⟨?_, ?_, ?_⟩
  . rw [hregistry, hshared', hf.registry_eq]
  . intro id
    rw [hshared']
    by_cases hid : l.device = id
    . rw [← hid, own]
      exact hpending
    . rw [other hid, (hother id hid).1]
      exact hf.pending id
  . intro id
    by_cases hid : l.device = id
    . rw [← hid, own, hsent]
    . rw [other hid, (hother id hid).2, hf.sent]

end Follows

def Replays (final s : State) (d : Dispatch) (moments : List Moment) : Prop :=
  (d.run (moments.map Moment.event)).1 = moments.map Moment.answer ∧
    Follows final s (d.run (moments.map Moment.event)).2

variable {final s s' : State} {d : Dispatch} {n : Nat} {e : Errand} {event : Event}
  {shared : State} {p : Phase}

theorem replays_nil (h : Follows final s d) : Replays final s d [] :=
  ⟨rfl, h⟩

theorem replays_singleton {m : Moment} (hanswer : (d.step m.event).1 = m.answer)
    (h : Follows final s (d.step m.event).2) : Replays final s d [m] :=
  ⟨congrArg (fun a => [a]) hanswer, h⟩

theorem Replays.append {before after : List Moment} (h : Replays final s d before)
    (h' : ∀ d', Follows final s d' → Replays final s' d' after) :
    Replays final s' d (before ++ after) := by
  obtain ⟨hanswers, hfollows⟩ := h' _ h.2
  unfold Replays
  rw [List.map_append, List.map_append, Dispatch.run_append, h.1, hanswers]
  exact ⟨rfl, hfollows⟩

theorem replays_of_locked {l : Lease} {t : Slot} (hf : Follows final s d) (hs : Tidy s)
    (hadmits : s.Admits final) (he : s.errands[n]? = some e) (hbefore : e.phase = .locked l)
    (ht : s.slots[l.slot]? = some t) (h : Turn s n e event shared p)
    (hshared : shared = s.setSlot l.slot { t with
      pending := current? t.pending (s.registry.get? l.device) })
    (hnone : final.answer? n = none →
      Errand.owed none { e with phase := p } = .nothing)
    (hsome : ∀ answer, final.answer? n = some answer →
      Plan.answer (verdictOf answer) (Plan.plan l.device
        ((s.registry.get? l.device).map (Pending.assume t.pending)) e.command) = answer ∧
      Errand.owed (some answer) { e with phase := p }
        = ⟨ofAnswer? e.command ((s.registry.get? l.device).map DeviceRecord.sequence) answer,
          Dispatch.handed answer⟩) :
    Replays final (shared.setPhase n e p) d (final.effect? n).toList := by
  rw [State.effect?_eq_of_admits hadmits he]
  have halike := hf.pending l.device
  have hsent := hf.sent l.device
  rw [Turn.outlook_of_phase_locked hs he hbefore ht] at halike hsent
  cases hanswer : final.answer? n with
  | none =>
    -- The errand will be given up. All it leaves is that an outdated command may be forgotten.
    have howed := hnone hanswer
    rw [← hanswer] at howed
    apply replays_nil
    apply hf.planned hs he hbefore ht h hshared howed rfl
    . exact fun id _ => ⟨rfl, rfl⟩
    . exact halike.trans (Alike.current? halike.right).symm
    . rw [hsent]
      exact (List.append_nil _).symm
  | some answer =>
    obtain ⟨hplan, howed⟩ := hsome answer hanswer
    rw [← hanswer] at howed
    have hl : e.phase.attended? = some l := by rw [hbefore]; rfl
    have hraw := (hs.attended he hl).1
    have hsend : (d.send (verdictOf answer) l.device e.command).1 = answer := by
      rw [Dispatch.send_fst, hf.assumedRecord?_eq hs he hbefore ht, hplan]
    have hsubmit := Dispatch.submit_of_ofText?_eq_some d (verdictOf answer) e.command hraw
    apply replays_singleton
    . dsimp
      rw [Dispatch.step_submit, hsubmit, hsend]
    . dsimp
      rw [Dispatch.step_submit, hsubmit]
      apply hf.planned hs he hbefore ht h hshared howed (Dispatch.registry_send ..)
      . intro id hid
        rw [Dispatch.get?_send, if_neg hid, Dispatch.published_send, Message.sentTo_append,
          Dispatch.sentTo_handed_send, if_neg hid, List.append_nil]
        exact ⟨rfl, rfl⟩
      . rw [Dispatch.get?_send, if_pos rfl, hf.registry_eq, hsend]
        apply halike.current?_both.or_left
        apply Pending.timely_ofAnswer?
      . rw [Dispatch.published_send, Message.sentTo_append, Dispatch.sentTo_handed_send,
          if_pos rfl, hsend, hsent]

theorem Turn.replays (hf : Follows final s d) (hs : Tidy s) (hadmits : s.Admits final)
    (he : s.errands[n]? = some e) (h : Turn s n e event shared p)
    (hp : p.Admits (final.answer? n)) :
    Replays final (shared.setPhase n e p) d (final.moment? event).toList := by
  have hdevice := State.device?_eq_of_admits hadmits he
  have still : final.moment? event = none → event ≠ .plan n →
      Replays final (shared.setPhase n e p) d (final.moment? event).toList := by
    intro hmoment hplan
    rw [hmoment]
    exact replays_nil (hf.of_outlook_eq h.registry_eq (h.outlook_eq hs he hp hplan))
  have houtlook := h.outlook_eq hs he hp
  cases h
  case turnAway hbefore hraw =>
    have hmoment : final.moment? (.lease n) = some ⟨some n, .submit e.raw e.command (.ok ()),
        some (.error (.invalidDevice e.raw))⟩ := by
      unfold State.moment?
      dsimp
      rw [hdevice, if_pos hraw, State.effect?_eq_of_admits hadmits he, hp]
      rfl
    have hsubmit := Dispatch.submit_of_ofText?_eq_none d (.ok ()) e.raw e.command hraw
    rw [hmoment]
    apply replays_singleton
    . dsimp
      rw [Dispatch.step_submit, hsubmit]
    . dsimp
      rw [Dispatch.step_submit, hsubmit]
      exact hf.of_outlook_eq rfl (houtlook (by simp))
  case join hbefore hraw hslot =>
    apply still
    . unfold State.moment?
      dsimp
      rw [hdevice, hraw]
      rfl
    . simp
  case found hbefore hraw hslot =>
    apply still
    . unfold State.moment?
      dsimp
      rw [hdevice, hraw]
      rfl
    . simp
  case plan l t a hbefore ht ha =>
    apply replays_of_locked hf hs hadmits he hbefore ht (.plan hbefore ht ha) rfl
    . intro _
      rfl
    . intro answer hanswer
      rw [ha]
      rw [hanswer] at hp
      rcases hp with hp | hp | ⟨failure, hp⟩
      . cases hp
      . cases hp
        exact ⟨rfl, rfl⟩
      . cases hp
        exact ⟨rfl, rfl⟩
  case refuse l t r hbefore ht hr =>
    have hrefused : final.answer? n = some (.error (.refused r)) := hp
    apply replays_of_locked hf hs hadmits he hbefore ht (.refuse hbefore ht hr) rfl
    . intro hnone
      rw [hrefused] at hnone
      cases hnone
    . intro answer hanswer
      rw [hr]
      cases hrefused.symm.trans hanswer
      exact ⟨rfl, rfl⟩
  all_goals exact still rfl (by simp)

theorem Step.replays (hf : Follows final s d) (hs : Tidy s) (h : Step s event s')
    (hs' : s'.Admits final) : Replays final s' d (final.moment? event).toList := by
  have hadmits := State.admits_of_step h hs'
  cases h with
  | arrive raw c =>
    refine replays_nil (hf.of_outlook_eq rfl ?_)
    intro id
    refine State.outlook_congr rfl rfl ?_
    intro t m ht hm
    obtain ⟨e, he, _⟩ := hs.exists_errand_of_lockedBy ht hm
    exact List.getElem?_append_left (List.getElem?_eq_some_iff.1 he).1
  | report r => exact replays_singleton rfl (hf.report r)
  | @turn n e event shared p he h =>
    have hn := State.getElem?_errands_setPhase (m := n) (h.errands_eq ▸ he) e p
    rw [if_pos rfl] at hn
    exact h.replays hf hs hadmits he (hs' n _ hn).1

theorem replays_moments {events : List Event} (h : s.run? events = some final) (hs : Tidy s)
    (hf : Follows final s d) : Replays final final d (final.moments events) := by
  induction events generalizing s d with
  | nil =>
    cases h
    exact replays_nil hf
  | cons event events ih =>
    obtain ⟨s', hstep, hrun⟩ := run?_cons_eq_some h
    rw [State.moments_cons]
    apply (hstep.replays hf hs (State.admits_of_run? hrun)).append
    intro d' hf'
    exact ih hrun (hs.step hstep) hf'

theorem Errand.messages_owed_answer? (e : Errand) : (e.owed e.phase.answer?).messages = [] := by
  unfold owed
  cases e.phase <;> rfl

theorem messages_outlook_self (s : State) (id : DeviceId) :
    (s.outlook s id).messages = sentTo id s.published := by
  unfold State.outlook
  cases s.slotOf? id with
  | none => rfl
  | some t =>
    -- An errand that is planned but has no answer at the end of the run hands nothing over.
    have howed : (s.owed s t.lockedBy).messages = [] := by
      unfold State.owed State.answer?
      cases t.lockedBy with
      | none => rfl
      | some n =>
        rw [Option.bind_some]
        cases s.errands[n]? with
        | none => rfl
        | some e => exact e.messages_owed_answer?
    dsimp
    rw [howed, List.append_nil]

end LockFleet.Concurrent
