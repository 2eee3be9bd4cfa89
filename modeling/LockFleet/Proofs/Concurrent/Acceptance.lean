import LockFleet.Proofs.Concurrent.Order
import LockFleet.Proofs.Dispatch.Unnoticed

/-!
This module contains which steps of the machine answer an errand with an acceptance, and hand a message
to the broker: only the one in which the broker's client takes the message.
-/

namespace LockFleet.Concurrent

def Answer.accepted? : Option Answer → Option Accepted
  | some (.ok a) => some a
  | _ => none

def State.accepted? (s : State) (n : Nat) : Option Accepted :=
  Answer.accepted? (s.answer? n)

namespace State

variable {s s' : State} {n : Nat} {e : Errand} {event : Event}

theorem accepted?_eq_some_iff {a : Accepted} :
    s.accepted? n = some a ↔ s.answer? n = some (.ok a) := by
  unfold accepted? Answer.accepted?
  split
  . next b hb => simp [hb]
  . next hnone => exact iff_of_false (by simp) (hnone a)

theorem answer?_setPhase (he : s.errands[n]? = some e) (p : Phase) (m : Nat) :
    (s.setPhase n e p).answer? m = if n = m then p.answer? else s.answer? m := by
  unfold answer?
  rw [getElem?_errands_setPhase he]
  split <;> rfl

theorem accepted?_setPhase (he : s.errands[n]? = some e) (p : Phase) (m : Nat) :
    (s.setPhase n e p).accepted? m = if n = m then Answer.accepted? p.answer? else s.accepted? m := by
  unfold accepted?
  rw [answer?_setPhase he]
  split <;> rfl

end State

variable {s s' shared : State} {n : Nat} {e : Errand} {event : Event} {p : Phase}

theorem Turn.accepted?_eq (h : Turn s n e event shared p) (hpublish : event ≠ .publish n (.ok ())) :
    Answer.accepted? p.answer? = Answer.accepted? e.phase.answer? := by
  cases h
  case publish => exact absurd rfl hpublish
  case abandon hp =>
    rcases hp with hp | ⟨a, sequence, hp⟩ <;> rw [hp] <;> rfl
  all_goals
    rw [‹e.phase = _›]
    rfl

theorem Turn.published_eq (h : Turn s n e event shared p) (hpublish : event ≠ .publish n (.ok ())) :
    shared.published = s.published := by
  cases h
  case publish => exact absurd rfl hpublish
  case check => apply State.published_dropUnused
  all_goals rfl

theorem accepted?_of_step (h : Step s event s') (hpublish : ∀ n, event ≠ .publish n (.ok ())) :
    (∀ m, s'.accepted? m = s.accepted? m) ∧ s'.published = s.published := by
  cases h with
  | arrive raw c =>
    refine ⟨?_, rfl⟩
    intro m
    unfold State.accepted? State.answer?
    dsimp only
    rcases State.getElem?_append_singleton s.errands ⟨raw, c, .arrived⟩ m with h | ⟨hm, h⟩
    . rw [h]
    . rw [h, hm]
      rfl
  | report r => exact ⟨fun _ => rfl, rfl⟩
  | @turn n e event shared p he h =>
    refine ⟨?_, h.published_eq (hpublish n)⟩
    intro m
    rw [State.accepted?_setPhase (h.errands_eq ▸ he), h.accepted?_eq (hpublish n)]
    unfold State.accepted? State.answer?
    rw [h.errands_eq]
    split
    . next hnm =>
      subst hnm
      rw [he]
      rfl
    . rfl

theorem accepted?_of_publish {l : Lease} {a : Accepted} {sequence : Option Sequence}
    (he : s.errands[n]? = some e) (hp : e.phase = .planned l a sequence)
    (h : s.step? (.publish n (.ok ())) = some s') :
    (∀ m, s'.accepted? m = if n = m then some a else s.accepted? m) ∧
      s'.published = s.published ++ [a.message] := by
  have hs : s.publish n e l a sequence (.ok ()) = s' := by
    dsimp only [State.step?] at h
    rw [he, Option.bind_some] at h
    unfold State.errandStep? at h
    rw [hp] at h
    exact Option.some.inj h
  subst hs
  refine ⟨?_, rfl⟩
  intro m
  exact State.accepted?_setPhase (s := s.hand a) he _ m

theorem registry_eq_of_step (h : Step s event s') (hreport : ∀ r, event ≠ .report r) :
    s'.registry = s.registry := by
  cases h with
  | arrive raw c => rfl
  | report r => exact absurd rfl (hreport r)
  | turn he h => exact h.registry_eq

namespace State

variable {final : State} {m : Moment}

theorem answer_of_effect?_eq_some (h : final.effect? n = some m) :
    m.errand? = some n ∧ m.answer = final.answer? n := by
  obtain ⟨e, he, hm⟩ := Option.bind_eq_some_iff.1 h
  obtain ⟨answer, hanswer, rfl⟩ := Option.map_eq_some_iff.1 hm
  refine ⟨rfl, ?_⟩
  unfold answer?
  rw [he, Option.bind_some, hanswer]

theorem answer_of_moment?_eq_some (h : final.moment? event = some m) :
    m.answer = m.errand?.bind final.answer? := by
  have effect : ∀ {n}, final.effect? n = some m → m.answer = m.errand?.bind final.answer? := by
    intro n h
    obtain ⟨herrand, hanswer⟩ := answer_of_effect?_eq_some h
    rw [herrand, hanswer]
    rfl
  unfold moment? at h
  split at h
  . cases h
    rfl
  . exact effect h
  . split at h
    . exact effect h
    . cases h
  . cases h

def acceptedMessages (final : State) (events : List Event) : List Message :=
  (final.order events).filterMap fun n => (final.accepted? n).map Accepted.message

theorem handed_answer? (final : State) (n : Nat) :
    ((final.answer? n).map Dispatch.handed).getD []
      = ((final.accepted? n).map Accepted.message).toList := by
  unfold accepted?
  cases final.answer? n with
  | none => rfl
  | some answer => cases answer <;> rfl

theorem handedWith_moment? (final : State) (event : Event) :
    Dispatch.handedWith ((final.moment? event).toList.map Moment.answer)
      = (final.effective? event).toList.filterMap
          fun n => (final.accepted? n).map Accepted.message := by
  unfold Dispatch.handedWith effective?
  cases hmoment : final.moment? event with
  | none => rfl
  | some m =>
    have hanswer := answer_of_moment?_eq_some hmoment
    cases herrand : m.errand? with
    | none => simp [hanswer, herrand]
    | some n =>
      have hhanded := final.handed_answer? n
      rw [herrand, Option.bind_some] at hanswer
      simp only [Option.toList_some, List.map_cons, List.map_nil, List.flatMap_cons,
        List.flatMap_nil, List.append_nil, hanswer, hhanded, Option.bind_some, herrand]
      cases ha : final.accepted? n <;> simp [ha]

theorem handedWith_moments (final : State) (events : List Event) :
    Dispatch.handedWith ((final.moments events).map Moment.answer)
      = final.acceptedMessages events := by
  induction events with
  | nil => rfl
  | cons event events ih =>
    unfold acceptedMessages at ih ⊢
    rw [order_cons, List.filterMap_append, ← ih, ← handedWith_moment?, moments_cons]
    simp [Dispatch.handedWith]

end State
end LockFleet.Concurrent
