import LockFleet.Broker.Bridge
import LockFleet.Proofs.Concurrent.Acceptance

/-!
This module contains the steps of the bridge, each with what it needs and what it leaves behind, and what
the steps of a run make of the connection, of the registry and of the dispatcher.
-/

namespace LockFleet.Broker.Bridge

def ingestion? (fallback : Option DeviceId) : Event → Option Registry.Event
  | .poll now (.message topic payload) =>
    (Utf8.decode payload).map fun text => .ingest now topic (String.ofList text) fallback
  | _ => none

/--
The steps of the bridge. Handing over a message takes place at once, whether it is taken or not.
-/
inductive Step (b : Bridge) : Event → Bridge → Prop where
  | accept (now : Instant) :
    Step b (.poll now .accepted)
      { b with connected := true, greetings := b.greetings ++ [greeting b.fallback] }
  | lose (now : Instant) : Step b (.poll now .failure) { b with connected := false }
  | hear {now p e} (he : ingestion? b.fallback (.poll now p) = some e) :
    Step b (.poll now p) (b.report e)
  | ignore {now p} (hp : p ≠ .accepted ∧ p ≠ .failure)
      (he : ingestion? b.fallback (.poll now p) = none) :
    Step b (.poll now p) b
  | greet {n request rest} (hn : b.greetings[n]? = some (request :: rest)) :
    Step b (.greet n) ({ b with greetings := b.greetings.set n rest }.enqueue request)
  | transmit {request rest} (hqueue : b.queue = request :: rest) :
    Step b .transmit { b with queue := rest, sent := b.sent ++ [request] }
  | take {n e l a sequence s} (he : b.dispatcher.errands[n]? = some e)
      (hp : e.phase = .planned l a sequence) (hconnected : b.connected = true)
      (hs : b.dispatcher.step? (.publish n (.ok ())) = some s) :
    Step b (.hand n) ({ b with dispatcher := s }.enqueue (.message a.message))
  | refuse {n s failure} (hs : b.dispatcher.step? (.publish n (.error failure)) = some s) :
    Step b (.hand n) { b with dispatcher := s }
  | errand {e s} (hpublish : ∀ n verdict, e ≠ .publish n verdict) (hreport : ∀ r, e ≠ .report r)
      (hs : b.dispatcher.step? e = some s) :
    Step b (.errand e) { b with dispatcher := s }

variable {fallback : Option DeviceId} {events : List Event} {b b' : Bridge} {event : Event}

theorem step_poll (b : Bridge) (now : Instant) (p : Packet) : Step b (.poll now p) (b.poll now p) := by
  cases p with
  | accepted => exact .accept now
  | failure => exact .lose now
  | subscribed => exact .ignore (by simp) rfl
  | other => exact .ignore (by simp) rfl
  | message topic payload =>
    unfold poll
    dsimp only
    split
    . next text htext =>
      apply Step.hear
      unfold ingestion?
      dsimp only
      rw [htext]
      rfl
    . next htext =>
      refine .ignore (by simp) ?_
      unfold ingestion?
      dsimp only
      rw [htext]
      rfl

theorem connected_of_verdict (h : b.publisher.verdict = .ok ()) : b.connected = true := by
  unfold publisher at h
  cases hconnected : b.connected with
  | true => rfl
  | false =>
    rw [hconnected] at h
    cases h

theorem step_hand {n : Nat} (h : b.hand? n = some b') : Step b (.hand n) b' := by
  unfold hand? at h
  split at h
  . next raw c l a sequence he =>
    obtain ⟨s, hs, rfl⟩ := Option.map_eq_some_iff.1 h
    cases hverdict : b.publisher.verdict with
    | ok u =>
      rw [hverdict] at hs
      exact .take he rfl (connected_of_verdict hverdict) hs
    | error failure =>
      rw [hverdict] at hs
      exact .refuse hs
  . cases h

theorem step_errand {e : Concurrent.Event} (h : b.step? (.errand e) = some b') :
    Step b (.errand e) b' := by
  cases e
  case publish => cases h
  case report => cases h
  all_goals
    unfold step? at h
    obtain ⟨s, hs, rfl⟩ := Option.map_eq_some_iff.1 h
    exact .errand (by simp) (by simp) hs

theorem step_of_step? (h : b.step? event = some b') : Step b event b' := by
  cases event with
  | poll now p =>
    cases h
    exact step_poll b now p
  | greet n =>
    dsimp only [step?] at h
    split at h
    . next request rest hn =>
      split at h <;> cases h
      exact .greet hn
    . cases h
  | transmit =>
    dsimp only [step?] at h
    split at h <;> cases h
    next hqueue => exact .transmit hqueue
  | hand n => exact step_hand h
  | errand e => exact step_errand h

inductive Run (fallback : Option DeviceId) : List Event → Bridge → Prop where
  | start : Run fallback [] (start fallback)
  | step {before : List Event} {e : Event} {b b' : Bridge} (h : Run fallback before b)
      (hs : Step b e b') : Run fallback (before ++ [e]) b'

theorem Run.of_run? {before : List Event} (hb : Run fallback before b)
    (h : b.run? events = some b') : Run fallback (before ++ events) b' := by
  induction events generalizing before b with
  | nil =>
    cases h
    rw [List.append_nil]
    exact hb
  | cons event events ih =>
    unfold run? at h
    rw [List.foldlM_cons] at h
    obtain ⟨b₁, hstep, hrun⟩ := Option.bind_eq_some_iff.1 h
    have := ih (hb.step (step_of_step? hstep)) hrun
    rwa [List.append_assoc] at this

theorem run_of_run? (h : (Bridge.start fallback).run? events = some b) : Run fallback events b :=
  Run.start.of_run? h

namespace Run

theorem fallback_eq (h : Run fallback events b) : b.fallback = fallback := by
  induction h with
  | start => rfl
  | step h hs ih => cases hs <;> exact ih

end Run

def IsLive (events : List Event) : Prop :=
  ∃ before now after, events = before ++ .poll now .accepted :: after ∧
    ∀ now', .poll now' .failure ∉ after

theorem isLive_concat_accepted (events : List Event) (now : Instant) :
    IsLive (events ++ [.poll now .accepted]) :=
  ⟨events, now, [], rfl, fun _ h => by cases h⟩

theorem not_isLive_concat_failure (events : List Event) (now : Instant) :
    ¬IsLive (events ++ [.poll now .failure]) := by
  rintro ⟨before, now', after, heq, hafter⟩
  rcases List.eq_nil_or_concat after with rfl | ⟨after, last, rfl⟩
  . have hlast := (List.append_inj_right' heq rfl)
    cases hlast
  . rw [List.concat_eq_append, ← List.cons_append, ← List.append_assoc] at heq
    cases List.append_inj_right' heq rfl
    exact hafter now (by simp)

theorem isLive_concat_iff {event : Event} (h : ∀ now, event ≠ .poll now .accepted)
    (h' : ∀ now, event ≠ .poll now .failure) : IsLive (events ++ [event]) ↔ IsLive events := by
  constructor
  . rintro ⟨before, now, after, heq, hafter⟩
    rcases List.eq_nil_or_concat after with rfl | ⟨after, last, rfl⟩
    . cases List.append_inj_right' heq rfl
      exact absurd rfl (h now)
    . rw [List.concat_eq_append, ← List.cons_append, ← List.append_assoc] at heq
      have hevents := List.append_inj_left' heq rfl
      refine ⟨before, now, after, hevents, ?_⟩
      intro now' hmem
      exact hafter now' (by simp [hmem])
  . rintro ⟨before, now, after, rfl, hafter⟩
    refine ⟨before, now, after ++ [event], by simp, ?_⟩
    intro now' hmem
    rcases List.mem_append.1 hmem with hmem | hmem
    . exact hafter now' hmem
    . exact h' now' (List.mem_singleton.1 hmem).symm

theorem Run.connected_iff (h : Run fallback events b) : b.connected = true ↔ IsLive events := by
  induction h with
  | start =>
    refine iff_of_false Bool.false_ne_true ?_
    rintro ⟨before, now, after, heq, -⟩
    cases before <;> cases heq
  | step h hs ih =>
    cases hs with
    | accept now => exact iff_of_true rfl (isLive_concat_accepted _ now)
    | lose now => exact iff_of_false Bool.false_ne_true (not_isLive_concat_failure _ now)
    | @hear now p e he =>
      rw [isLive_concat_iff]
      . exact ih
      . rintro now ⟨⟩
        cases he
      . rintro now ⟨⟩
        cases he
    | ignore hp =>
      rw [isLive_concat_iff]
      . exact ih
      . rintro now ⟨⟩
        exact hp.1 rfl
      . rintro now ⟨⟩
        exact hp.2 rfl
    | _ =>
      rw [isLive_concat_iff (by simp) (by simp)]
      exact ih

theorem Run.registry_eq (h : Run fallback events b) :
    b.dispatcher.registry = Registry.empty.run (events.filterMap (ingestion? fallback)) := by
  induction h with
  | start => rfl
  | @step events e b b' h hs ih =>
    have hfallback := h.fallback_eq
    rw [List.filterMap_append, Registry.run_append, ← ih]
    cases hs with
    | hear he =>
      rw [hfallback] at he
      rw [List.filterMap_cons_some he]
      rfl
    | ignore hp he =>
      rw [hfallback] at he
      rw [List.filterMap_cons_none he]
      rfl
    | take he hp hconnected hs =>
      exact Concurrent.registry_eq_of_step (Concurrent.step_of_step? hs) (by simp)
    | refuse hs =>
      exact Concurrent.registry_eq_of_step (Concurrent.step_of_step? hs) (by simp)
    | errand hpublish hreport hs =>
      exact Concurrent.registry_eq_of_step (Concurrent.step_of_step? hs) hreport
    | _ => rfl

def inner? (fallback : Option DeviceId) : Event → Option Concurrent.Event
  | .errand e => some e
  | e => (ingestion? fallback e).map .report

def history (fallback : Option DeviceId) (events : List Event) : List Concurrent.Event :=
  events.filterMap (inner? fallback)

theorem history_poll (now : Instant) (p : Packet) :
    history fallback [.poll now p]
      = ((ingestion? fallback (.poll now p)).map .report).toList := by
  unfold history
  rw [List.filterMap_cons]
  have hinner : inner? fallback (.poll now p) = (ingestion? fallback (.poll now p)).map .report :=
    rfl
  rw [hinner]
  cases ingestion? fallback (.poll now p) <;> rfl

theorem exists_step?_dispatcher (h : Step b event b') :
    ∃ es, b.dispatcher.run? es = some b'.dispatcher ∧
      ∀ final, Concurrent.State.moments final es
        = Concurrent.State.moments final (history b.fallback [event]) := by
  have single : ∀ {e : Concurrent.Event} {s : Concurrent.State}, b.dispatcher.step? e = some s →
      b.dispatcher.run? [e] = some s := by
    intro e s hs
    rw [Concurrent.State.run?_cons, hs]
    rfl
  cases h with
  | hear he =>
    refine ⟨[.report _], single rfl, ?_⟩
    intro final
    rw [history_poll, he]
    rfl
  | ignore hp he =>
    refine ⟨[], rfl, ?_⟩
    intro final
    rw [history_poll, he]
    rfl
  | take _ _ _ hs => exact ⟨_, single hs, fun _ => rfl⟩
  | refuse hs => exact ⟨_, single hs, fun _ => rfl⟩
  | errand _ _ hs => exact ⟨_, single hs, fun _ => rfl⟩
  | _ => exact ⟨[], rfl, fun _ => rfl⟩

theorem Run.exists_run?_dispatcher (h : Run fallback events b) :
    ∃ es, Concurrent.State.empty.run? es = some b.dispatcher ∧
      ∀ final, Concurrent.State.moments final es
        = Concurrent.State.moments final (history fallback events) := by
  induction h with
  | start => exact ⟨[], rfl, fun _ => rfl⟩
  | @step events e b b' h hs ih =>
    obtain ⟨es, hrun, hmoments⟩ := ih
    obtain ⟨es', hrun', hmoments'⟩ := exists_step?_dispatcher hs
    refine ⟨es ++ es', ?_, ?_⟩
    . unfold Concurrent.State.run? at hrun hrun' ⊢
      rw [List.foldlM_append, hrun]
      exact hrun'
    . intro final
      have hfinal := hmoments final
      have hfinal' := hmoments' final
      rw [h.fallback_eq] at hfinal'
      unfold Concurrent.State.moments history at hfinal hfinal' ⊢
      rw [List.filterMap_append, List.filterMap_append, List.filterMap_append, hfinal, hfinal']

end LockFleet.Broker.Bridge
