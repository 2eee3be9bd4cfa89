import LockFleet.Proofs.Concurrent.Slots

/-!
This module contains the answers that errands end with. What an errand has come to limits the answers it
may still get, so the last state of a run tells what was to become of the errands in every state before.
-/

namespace LockFleet.Concurrent

namespace Phase

def answer? : Phase → Option Answer
  | answered _ answer _ => some answer
  | unlocked _ answer | checked _ answer | gone answer => answer
  | arrived | waiting _ | locked _ | planned _ _ _ => none

def Admits (final : Option Answer) : Phase → Prop
  | arrived | waiting _ | locked _ => True
  | planned _ a _ =>
    final = none ∨ final = some (.ok a) ∨ ∃ failure, final = some (.error (.unpublished failure))
  | answered _ answer _ => final = some answer
  | unlocked _ answer | checked _ answer | gone answer => final = answer

theorem admits_answer? (p : Phase) : p.Admits p.answer? := by
  cases p
  case planned => exact .inl rfl
  all_goals trivial

end Phase

theorem Turn.admits {s shared : State} {n : Nat} {e : Errand} {event : Event} {p : Phase}
    (h : Turn s n e event shared p) {final : Option Answer} (hp : p.Admits final) :
    e.phase.Admits final := by
  cases h
  case abandon hbefore =>
    rcases hbefore with hbefore | ⟨a, sequence, hbefore⟩
    . rw [hbefore]
      trivial
    . rw [hbefore]
      exact .inl hp
  case publish hbefore =>
    rw [hbefore]
    exact .inr (.inl hp)
  case fail failure hbefore =>
    rw [hbefore]
    exact .inr (.inr ⟨failure, hp⟩)
  case unlock hbefore =>
    rw [hbefore]
    exact hp
  case check hbefore =>
    rw [hbefore]
    exact hp
  case leave hbefore =>
    rw [hbefore]
    exact hp
  all_goals
    rw [‹e.phase = _›]
    trivial

namespace State

def answer? (s : State) (n : Nat) : Option Answer :=
  (s.errands[n]?).bind fun e => e.phase.answer?

def Admits (s final : State) : Prop :=
  ∀ (n : Nat) (e : Errand), s.errands[n]? = some e → e.phase.Admits (final.answer? n) ∧
    ∃ e' : Errand, final.errands[n]? = some e' ∧ e'.raw = e.raw ∧ e'.command = e.command

theorem admits_self (s : State) : s.Admits s := by
  intro n e he
  unfold answer?
  rw [he]
  exact ⟨e.phase.admits_answer?, e, rfl, rfl, rfl⟩

theorem admits_of_step {s s' final : State} {event : Event} (h : Step s event s')
    (hs' : s'.Admits final) : s.Admits final := by
  intro m e he
  cases h with
  | arrive raw c =>
    apply hs'
    dsimp
    rw [List.getElem?_append_left (List.getElem?_eq_some_iff.1 he).1, he]
  | report r => exact hs' m e he
  | @turn n e₀ event shared p he₀ h =>
    have hm := hs' m
    rw [getElem?_errands_setPhase (h.errands_eq ▸ he₀)] at hm
    split at hm
    . next hnm =>
      subst hnm
      cases he₀.symm.trans he
      obtain ⟨hphase, hkept⟩ := hm _ rfl
      exact ⟨h.admits hphase, hkept⟩
    . rw [h.errands_eq] at hm
      exact hm e he

theorem admits_of_run? {s final : State} {events : List Event} (h : s.run? events = some final) :
    s.Admits final := by
  induction events generalizing s with
  | nil =>
    cases h
    exact admits_self _
  | cons event events ih =>
    obtain ⟨s', hstep, hrun⟩ := run?_cons_eq_some h
    exact admits_of_step hstep (ih hrun)

end State
end LockFleet.Concurrent
