import LockFleet.Proofs.Broker.Step

/-!
This module contains an account of everything that is put into the queue: each request with what it was
put there for, which is either a greeting or an errand.
-/

namespace LockFleet.Broker.Bridge

inductive Source where
  | greeting (n : Nat)
  | errand (n : Nat)
  deriving DecidableEq

structure Placement where
  source : Source
  request : Outgoing

def requestsOf (placements : List Placement) (source : Source) : List Outgoing :=
  (placements.filter fun p => p.source = source).map Placement.request

def commands (placements : List Placement) : List Message :=
  placements.filterMap fun p =>
    match p with
    | ⟨.errand _, .message m⟩ => some m
    | _ => none

/--
The placements account for a state of the bridge: they are what is or was in the queue. Each greeting
was put there in its order up to what remains of it. Each errand that was accepted put one message
there, and no other errand put anything there.
-/
structure Ledger (b : Bridge) (placements : List Placement) : Prop where
  requests : placements.map Placement.request = b.sent ++ b.queue
  greetings : ∀ n, requestsOf placements (.greeting n) ++ (b.greetings[n]?).getD []
    = if n < b.greetings.length then greeting b.fallback else []
  errands : ∀ n, requestsOf placements (.errand n)
    = (b.dispatcher.accepted? n).toList.map fun a => .message a.message
  published : commands placements = b.dispatcher.published

variable {fallback : Option DeviceId} {events : List Event} {b b' : Bridge} {event : Event}
  {placements : List Placement}

theorem requestsOf_concat (placements : List Placement) (p : Placement) (source : Source) :
    requestsOf (placements ++ [p]) source
      = requestsOf placements source ++ if p.source = source then [p.request] else [] := by
  unfold requestsOf
  rw [List.filter_append, List.map_append]
  split
  . next h => simp [h]
  . next h => simp [h]

theorem commands_concat (placements : List Placement) (p : Placement) :
    commands (placements ++ [p]) = commands placements ++ commands [p] :=
  List.filterMap_append

namespace Ledger

theorem start (fallback : Option DeviceId) : Ledger (Bridge.start fallback) [] where
  requests := rfl
  greetings n := by simp [requestsOf, Bridge.start]
  errands n := rfl
  published := rfl

theorem accept (h : Ledger b placements) :
    Ledger { b with connected := true, greetings := b.greetings ++ [greeting b.fallback] }
      placements where
  requests := h.requests
  greetings := by
    intro n
    have hn := h.greetings n
    dsimp only
    rcases Nat.lt_trichotomy n b.greetings.length with hlt | heq | hgt
    . rw [List.getElem?_append_left hlt, hn, if_pos hlt, if_pos (by simp; omega)]
    . subst heq
      rw [if_neg (by omega), List.append_eq_nil_iff] at hn
      rw [List.getElem?_concat_length, hn.1, if_pos (by simp)]
      rfl
    . rw [if_neg (by omega), List.append_eq_nil_iff] at hn
      rw [List.getElem?_eq_none (by simp; omega), hn.1, if_neg (by simp; omega)]
      rfl
  errands := h.errands
  published := h.published

theorem greet (h : Ledger b placements) {n : Nat} {request : Outgoing} {rest : List Outgoing}
    (hn : b.greetings[n]? = some (request :: rest)) :
    Ledger ({ b with greetings := b.greetings.set n rest }.enqueue request)
      (placements ++ [⟨.greeting n, request⟩]) where
  requests := by
    simp [enqueue, h.requests]
  greetings := by
    intro m
    have hm := h.greetings m
    have hlt := (List.getElem?_eq_some_iff.1 hn).1
    unfold enqueue
    dsimp only
    rw [requestsOf_concat, List.length_set, ← hm, List.getElem?_set]
    by_cases hnm : n = m
    . subst hnm
      rw [if_pos rfl, if_pos rfl, if_pos hlt, hn, List.append_assoc]
      rfl
    . rw [if_neg hnm, if_neg (by simpa using hnm), List.append_nil]
  errands := by
    intro m
    rw [requestsOf_concat, if_neg (by simp), List.append_nil]
    exact h.errands m
  published := by
    rw [commands_concat, h.published]
    exact List.append_nil _

theorem transmit (h : Ledger b placements) {request : Outgoing} {rest : List Outgoing}
    (hqueue : b.queue = request :: rest) :
    Ledger { b with queue := rest, sent := b.sent ++ [request] } placements where
  requests := by simp [h.requests, hqueue]
  greetings := h.greetings
  errands := h.errands
  published := h.published

theorem take (h : Ledger b placements) {n : Nat} {a : Accepted} {s : Concurrent.State}
    (hnone : b.dispatcher.accepted? n = none)
    (haccepted : ∀ m, s.accepted? m = if n = m then some a else b.dispatcher.accepted? m)
    (hpublished : s.published = b.dispatcher.published ++ [a.message]) :
    Ledger ({ b with dispatcher := s }.enqueue (.message a.message))
      (placements ++ [⟨.errand n, .message a.message⟩]) where
  requests := by simp [enqueue, h.requests]
  greetings := by
    intro m
    rw [requestsOf_concat, if_neg (by simp), List.append_nil]
    exact h.greetings m
  errands := by
    intro m
    have hm := h.errands m
    unfold enqueue
    dsimp only
    rw [requestsOf_concat, hm, haccepted]
    by_cases hnm : n = m
    . subst hnm
      rw [hnone, if_pos rfl, if_pos rfl]
      rfl
    . rw [if_neg hnm, if_neg (by simpa using hnm), List.append_nil]
  published := by
    rw [commands_concat, h.published]
    exact hpublished.symm

theorem dispatch (h : Ledger b placements) {s : Concurrent.State}
    (haccepted : ∀ m, s.accepted? m = b.dispatcher.accepted? m)
    (hpublished : s.published = b.dispatcher.published) :
    Ledger { b with dispatcher := s } placements where
  requests := h.requests
  greetings := h.greetings
  errands n := (h.errands n).trans (by rw [haccepted])
  published := h.published.trans hpublished.symm

theorem step (h : Ledger b placements) (hs : Step b event b') :
    ∃ placements', Ledger b' placements' := by
  cases hs with
  | accept now => exact ⟨_, h.accept⟩
  | lose now => exact ⟨_, h.requests, h.greetings, h.errands, h.published⟩
  | hear he => exact ⟨_, h.dispatch (fun _ => rfl) rfl⟩
  | ignore hp he => exact ⟨_, h⟩
  | greet hn => exact ⟨_, h.greet hn⟩
  | transmit hqueue => exact ⟨_, h.transmit hqueue⟩
  | take he hp hconnected hs =>
    obtain ⟨haccepted, hpublished⟩ := Concurrent.accepted?_of_publish he hp hs
    refine ⟨_, h.take ?_ haccepted hpublished⟩
    unfold Concurrent.State.accepted? Concurrent.State.answer?
    rw [he, Option.bind_some, hp]
    rfl
  | refuse hs =>
    obtain ⟨haccepted, hpublished⟩ :=
      Concurrent.accepted?_of_step (Concurrent.step_of_step? hs) (by simp)
    exact ⟨_, h.dispatch haccepted hpublished⟩
  | errand hpublish hreport hs =>
    obtain ⟨haccepted, hpublished⟩ :=
      Concurrent.accepted?_of_step (Concurrent.step_of_step? hs) (fun n => hpublish n _)
    exact ⟨_, h.dispatch haccepted hpublished⟩

end Ledger

theorem Run.exists_ledger (h : Run fallback events b) : ∃ placements, Ledger b placements := by
  induction h with
  | start => exact ⟨[], .start fallback⟩
  | step h hs ih =>
    obtain ⟨placements, hledger⟩ := ih
    exact hledger.step hs

def isAcceptance : Event → Bool
  | .poll _ .accepted => true
  | _ => false

theorem isAcceptance_poll {now : Instant} {p : Packet} (hp : p ≠ .accepted) :
    isAcceptance (.poll now p) = false := by
  cases p <;> first | rfl | exact absurd rfl hp

theorem Run.length_greetings (h : Run fallback events b) :
    b.greetings.length = events.countP isAcceptance := by
  induction h with
  | start => rfl
  | @step events e b b' h hs ih =>
    rw [List.countP_append, ← ih]
    cases hs with
    | accept now => exact List.length_append
    | @hear now p e he =>
      have hp : p ≠ .accepted := by
        rintro rfl
        cases he
      rw [List.countP_cons_of_neg (by simp [isAcceptance_poll hp])]
      rfl
    | ignore hp he =>
      rw [List.countP_cons_of_neg (by simp [isAcceptance_poll hp.1])]
      rfl
    | greet hn => exact List.length_set
    | _ => rfl

theorem Run.exists_hand_of_accepted? (h : Run fallback events b) {n : Nat} {a : Accepted}
    (ha : b.dispatcher.accepted? n = some a) :
    ∃ before after, events = before ++ .hand n :: after ∧ IsLive before := by
  induction h with
  | start => cases ha
  | @step events e b b' h hs ih =>
    have earlier : b'.dispatcher.accepted? n = b.dispatcher.accepted? n →
        ∃ before after, events ++ [e] = before ++ .hand n :: after ∧ IsLive before := by
      intro heq
      obtain ⟨before, after, rfl, hlive⟩ := ih (heq ▸ ha)
      exact ⟨before, after ++ [e], by simp, hlive⟩
    cases hs with
    | @take m e l a sequence s he hp hconnected hs =>
      obtain ⟨haccepted, -⟩ := Concurrent.accepted?_of_publish he hp hs
      by_cases hmn : m = n
      . subst hmn
        exact ⟨events, [], rfl, h.connected_iff.1 hconnected⟩
      . apply earlier
        exact (haccepted n).trans (if_neg hmn)
    | refuse hs =>
      exact earlier ((Concurrent.accepted?_of_step (Concurrent.step_of_step? hs) (by simp)).1 n)
    | errand hpublish hreport hs =>
      apply earlier
      exact (Concurrent.accepted?_of_step (Concurrent.step_of_step? hs)
        (fun n => hpublish n _)).1 n
    | _ => exact earlier rfl

end LockFleet.Broker.Bridge
