import LockFleet.Dispatch.History
import LockFleet.Proofs.Concurrent.Answers

/-!
This module contains the order in which the errands of a run take effect, one at a time, between the
reports. An errand takes effect when it is planned, and one that names no device when it is turned away.
-/

namespace LockFleet.Concurrent

structure Moment where
  errand? : Option Nat
  event : Dispatch.Event
  answer : Dispatch.Answer

def verdictOf : Answer → Verdict
  | .error (.unpublished failure) => .error failure
  | _ => .ok ()

namespace State

variable (final : State)

def device? (n : Nat) : Option DeviceId :=
  (final.errands[n]?).bind fun e => DeviceId.ofText? e.raw

/--
The moment at which an errand takes effect. There is none for an errand without an answer.
-/
def effect? (n : Nat) : Option Moment :=
  (final.errands[n]?).bind fun e =>
    e.phase.answer?.map fun answer =>
      ⟨some n, .submit e.raw e.command (verdictOf answer), some answer⟩

/--
What a step means to the order, where `final` is the last state of the run.
-/
def moment? : Event → Option Moment
  | .report r => some ⟨none, .report r, none⟩
  | .plan n => final.effect? n
  | .lease n => if final.device? n = none then final.effect? n else none
  | _ => none

def moments (events : List Event) : List Moment :=
  events.filterMap final.moment?

def effective? (event : Event) : Option Nat :=
  (final.moment? event).bind Moment.errand?

theorem errand?_effect? (n : Nat) :
    (final.effect? n).bind Moment.errand?
      = if (final.answer? n).isSome then some n else none := by
  unfold effect? answer?
  cases final.errands[n]? with
  | none => rfl
  | some e =>
    rw [Option.bind_some, Option.bind_some]
    cases e.phase.answer? <;> rfl

theorem effective?_plan (n : Nat) :
    final.effective? (.plan n) = if (final.answer? n).isSome then some n else none :=
  final.errand?_effect? n

theorem effective?_lease (n : Nat) :
    final.effective? (.lease n)
      = if final.device? n = none ∧ (final.answer? n).isSome then some n else none := by
  unfold effective? moment?
  dsimp
  split
  . next hdevice =>
    rw [errand?_effect?]
    simp [hdevice]
  . next hdevice => simp [hdevice]

theorem errand?_of_effective? {event : Event} {n : Nat} (h : final.effective? event = some n) :
    event.errand? = some n := by
  cases event
  case plan m =>
    rw [effective?_plan] at h
    split at h
    . exact h
    . cases h
  case lease m =>
    rw [effective?_lease] at h
    split at h
    . exact h
    . cases h
  all_goals cases h

end State

def Phase.isOpen : Phase → Bool
  | arrived | waiting _ | locked _ => true
  | planned _ _ _ | answered _ _ _ | unlocked _ _ | checked _ _ | gone _ => false

theorem Phase.answer?_of_isOpen {p : Phase} (h : p.isOpen = true) : p.answer? = none := by
  cases p <;> first | rfl | cases h

def State.Awaits (final s : State) (n : Nat) : Prop :=
  (s.errands[n]?).all (fun e => e.phase.isOpen) = true ∧ (final.answer? n).isSome = true

theorem Turn.effective?_cases {s shared final : State} {n : Nat} {e : Errand} {event : Event}
    {p : Phase} (h : Turn s n e event shared p) (hp : p.Admits (final.answer? n))
    (hdevice : final.device? n = DeviceId.ofText? e.raw) :
    (final.effective? event = some n ∧ e.phase.isOpen = true ∧ p.isOpen = false ∧
      (final.answer? n).isSome = true) ∨
    (final.effective? event = none ∧
      ((final.answer? n).isSome = true → e.phase.isOpen = p.isOpen)) := by
  have planned : ∀ {q : Phase}, e.phase.isOpen = true → q.isOpen = false →
      (final.effective? (.plan n) = some n ∧ e.phase.isOpen = true ∧ q.isOpen = false ∧
        (final.answer? n).isSome = true) ∨
      (final.effective? (.plan n) = none ∧
        ((final.answer? n).isSome = true → e.phase.isOpen = q.isOpen)) := by
    intro q he hq
    rw [State.effective?_plan]
    by_cases hanswer : (final.answer? n).isSome = true
    . exact .inl ⟨if_pos hanswer, he, hq, hanswer⟩
    . exact .inr ⟨if_neg hanswer, fun h => absurd h hanswer⟩
  have unanswered : ∀ {q : Phase}, final.answer? n = none →
      ((final.answer? n).isSome = true → e.phase.isOpen = q.isOpen) := by
    intro q hnone hsome
    rw [hnone] at hsome
    cases hsome
  cases h
  -- Three turns close an errand with an answer to come, and three close it for good without one.
  case turnAway hbefore hid =>
    refine .inl ⟨?_, by rw [hbefore]; rfl, rfl, by rw [hp]; rfl⟩
    rw [State.effective?_lease, hdevice, hid, hp]
    rfl
  case join hbefore hid _ =>
    refine .inr ⟨?_, fun _ => by rw [hbefore]; rfl⟩
    rw [State.effective?_lease, hdevice, hid]
    rfl
  case found hbefore hid _ =>
    refine .inr ⟨?_, fun _ => by rw [hbefore]; rfl⟩
    rw [State.effective?_lease, hdevice, hid]
    rfl
  case plan hbefore _ _ => exact planned (by rw [hbefore]; rfl) rfl
  case refuse hbefore _ _ => exact planned (by rw [hbefore]; rfl) rfl
  case giveUp => exact .inr ⟨rfl, unanswered hp⟩
  case withdraw => exact .inr ⟨rfl, unanswered hp⟩
  case abandon => exact .inr ⟨rfl, unanswered hp⟩
  all_goals exact .inr ⟨rfl, fun _ => by rw [‹e.phase = _›]; rfl⟩

namespace State

variable {s s' final : State} {event : Event}

theorem device?_eq_of_admits (h : s.Admits final) {n : Nat} {e : Errand}
    (he : s.errands[n]? = some e) : final.device? n = DeviceId.ofText? e.raw := by
  obtain ⟨_, e', he', hraw, _⟩ := h n e he
  unfold device?
  rw [he', Option.bind_some, hraw]

theorem effect?_eq_of_admits (h : s.Admits final) {n : Nat} {e : Errand}
    (he : s.errands[n]? = some e) :
    final.effect? n = (final.answer? n).map fun answer =>
      ⟨some n, .submit e.raw e.command (verdictOf answer), some answer⟩ := by
  obtain ⟨_, e', he', hraw, hcommand⟩ := h n e he
  unfold effect? answer?
  rw [he', Option.bind_some, Option.bind_some, hraw, hcommand]

theorem awaits_arrive (s : State) (raw : String) (c : Command) (n : Nat) :
    final.Awaits { s with errands := s.errands ++ [⟨raw, c, .arrived⟩] } n ↔ final.Awaits s n := by
  unfold Awaits
  dsimp
  rcases getElem?_append_singleton s.errands ⟨raw, c, .arrived⟩ n with h | ⟨hn, h⟩
  . rw [h]
  . rw [h, hn]
    rfl

theorem not_awaits_self (final : State) (n : Nat) : ¬final.Awaits final n := by
  unfold Awaits answer?
  rintro ⟨hopen, hanswer⟩
  cases he : final.errands[n]? with
  | none =>
    rw [he] at hanswer
    cases hanswer
  | some e =>
    rw [he] at hopen hanswer
    rw [Option.bind_some, Phase.answer?_of_isOpen hopen] at hanswer
    cases hanswer

theorem awaits_empty (final : State) (n : Nat) :
    final.Awaits .empty n ↔ (final.answer? n).isSome = true :=
  ⟨fun h => h.2, fun h => ⟨rfl, h⟩⟩

theorem awaits_of_step (h : Step s event s') (hs' : s'.Admits final) (m : Nat) :
    (final.Awaits s m ↔ final.effective? event = some m ∨ final.Awaits s' m) ∧
    (final.effective? event = some m → ¬final.Awaits s' m) := by
  have hs := admits_of_step h hs'
  cases h with
  | arrive raw c =>
    refine ⟨?_, fun heffect => by cases heffect⟩
    rw [awaits_arrive]
    exact ⟨.inr, fun h => h.resolve_left fun heffect => by cases heffect⟩
  | report r =>
    refine ⟨⟨.inr, ?_⟩, fun heffect => by cases heffect⟩
    exact fun h => h.resolve_left fun heffect => by cases heffect
  | @turn n e event shared p he h =>
    have herrand := getElem?_errands_setPhase (m := m) (h.errands_eq ▸ he) e p
    have hn : (shared.setPhase n e p).errands[n]? = some { e with phase := p } := by
      rw [getElem?_errands_setPhase (h.errands_eq ▸ he), if_pos rfl]
    have hcases := h.effective?_cases (hs' n _ hn).1 (device?_eq_of_admits hs he)
    by_cases hnm : n = m
    . subst hnm
      unfold Awaits
      rw [hn, he]
      dsimp
      rcases hcases with ⟨heffect, hopen, hclosed, hanswer⟩ | ⟨heffect, hopen⟩
      . rw [heffect, hopen, hclosed, hanswer]
        simp
      . rw [heffect]
        grind
    . have hother : final.effective? event ≠ some m := by
        intro heffect
        have := final.errand?_of_effective? heffect
        rw [h.errand?_eq] at this
        exact hnm (Option.some.inj this)
      rw [if_neg hnm, h.errands_eq] at herrand
      refine ⟨?_, fun heffect => absurd heffect hother⟩
      unfold Awaits
      rw [herrand]
      exact ⟨.inr, fun h => h.resolve_left hother⟩

def order (final : State) (events : List Event) : List Nat :=
  (final.moments events).filterMap Moment.errand?

theorem moments_cons (final : State) (event : Event) (events : List Event) :
    final.moments (event :: events) = (final.moment? event).toList ++ final.moments events := by
  unfold moments
  rw [List.filterMap_cons]
  cases final.moment? event <;> rfl

theorem order_cons (final : State) (event : Event) (events : List Event) :
    final.order (event :: events)
      = (final.effective? event).toList ++ final.order events := by
  unfold order effective?
  rw [moments_cons, List.filterMap_append]
  cases final.moment? event with
  | none => rfl
  | some moment => cases h : moment.errand? <;> simp [h]

theorem nodup_order_and_mem_order_iff {events : List Event} (h : s.run? events = some final) :
    (final.order events).Nodup ∧ ∀ n, n ∈ final.order events ↔ final.Awaits s n := by
  induction events generalizing s with
  | nil =>
    cases h
    refine ⟨List.nodup_nil, ?_⟩
    intro n
    simp [order, moments, not_awaits_self]
  | cons event events ih =>
    obtain ⟨s', hstep, hrun⟩ := run?_cons_eq_some h
    obtain ⟨hnodup, hmem⟩ := ih hrun
    have hawaits := awaits_of_step hstep (admits_of_run? hrun)
    rw [order_cons]
    constructor
    . cases heffect : final.effective? event with
      | none => exact hnodup
      | some m =>
        refine List.nodup_cons.2 ⟨?_, hnodup⟩
        intro hm
        exact (hawaits m).2 heffect ((hmem m).1 hm)
    . intro n
      rw [List.mem_append, Option.mem_toList, hmem, (hawaits n).1]

end State
end LockFleet.Concurrent
