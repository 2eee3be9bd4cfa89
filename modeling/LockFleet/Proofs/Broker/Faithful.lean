import LockFleet.Proofs.Broker.Ledger
import LockFleet.Proofs.Concurrent.Omission
import LockFleet.Proofs.Concurrent.Serial

/-!
This module contains the proof that commands go out only while there is a connection, once each and in
order, and that the registry records what comes in and nothing else.
-/

namespace LockFleet.Broker.Bridge

open Concurrent (Moment replay)
open Message (sentTo)

variable {fallback : Option DeviceId} {events : List Event} {b : Bridge}

def serial (fallback : Option DeviceId) (events : List Event) (b : Bridge) : List Moment :=
  b.dispatcher.moments (history fallback events)

namespace Run

theorem replay_serial (h : Run fallback events b) :
    (replay (serial fallback events b)).1 = (serial fallback events b).map Moment.answer ∧
      ∀ id, sentTo id (replay (serial fallback events b)).2.published
        = sentTo id b.dispatcher.published := by
  obtain ⟨es, hrun, hmoments⟩ := h.exists_run?_dispatcher
  obtain ⟨hanswers, hfollows⟩ :=
    Concurrent.replays_moments hrun Concurrent.tidy_empty (.empty b.dispatcher)
  rw [hmoments] at hanswers hfollows
  refine ⟨hanswers, ?_⟩
  intro id
  exact (hfollows.sent id).trans (Concurrent.messages_outlook_self _ id)

theorem exists_placements (h : Run fallback events b) :
    ∃ placements, Ledger b placements ∧ ∀ id, sentTo id (commands placements)
      = sentTo id (b.dispatcher.acceptedMessages (history fallback events)) := by
  obtain ⟨placements, hledger⟩ := h.exists_ledger
  obtain ⟨hanswers, hsent⟩ := h.replay_serial
  refine ⟨placements, hledger, ?_⟩
  intro id
  rw [hledger.published, ← hsent, ← Concurrent.State.handedWith_moments]
  unfold replay at hanswers ⊢
  rw [Dispatch.published_run, hanswers]
  rfl

theorem nodup_order_and_mem_order_iff (h : Run fallback events b) :
    (b.dispatcher.order (history fallback events)).Nodup ∧
      ∀ n, n ∈ b.dispatcher.order (history fallback events)
        ↔ (b.dispatcher.answer? n).isSome = true := by
  obtain ⟨es, hrun, hmoments⟩ := h.exists_run?_dispatcher
  obtain ⟨hnodup, hmem⟩ := Concurrent.State.nodup_order_and_mem_order_iff hrun
  have horder : b.dispatcher.order es = b.dispatcher.order (history fallback events) :=
    congrArg (List.filterMap Moment.errand?) (hmoments b.dispatcher)
  rw [horder] at hnodup hmem
  refine ⟨hnodup, ?_⟩
  intro n
  rw [hmem, Concurrent.State.awaits_empty]

end Run

/--
What holds of the bridge after a list of steps from the start. An errand is accepted only while the
connection is live. What was put into the queue is accounted for by a greeting for each acceptance of
the connection and one message for each accepted errand, for every device in the order in which its
errands took effect. In that order the dispatcher gives all the answers, also if it never learns of
some errands that failed. The registry has recorded the messages from the broker and nothing else.
-/
structure IsFaithful (fallback : Option DeviceId) (events : List Event) (b : Bridge) : Prop where
  fallback_eq : b.fallback = fallback
  live : ∀ n a, b.dispatcher.answer? n = some (.ok a) →
    ∃ before after, events = before ++ .hand n :: after ∧ IsLive before
  greetings : b.greetings.length = events.countP isAcceptance
  placements : ∃ placements, Ledger b placements ∧ ∀ id, sentTo id (commands placements)
    = sentTo id (b.dispatcher.acceptedMessages (history fallback events))
  nodup : (b.dispatcher.order (history fallback events)).Nodup
  mem_iff : ∀ n, n ∈ b.dispatcher.order (history fallback events)
    ↔ (b.dispatcher.answer? n).isSome = true
  unnoticed : ∀ keep : Moment → Bool,
    (∀ m ∈ serial fallback events b, keep m = false → m.Failed) →
    (replay ((serial fallback events b).filter keep)).1
        = ((serial fallback events b).filter keep).map Moment.answer ∧
      Dispatch.Alike (replay (serial fallback events b)).2
        (replay ((serial fallback events b).filter keep)).2
  registry : b.dispatcher.registry = Registry.empty.run (events.filterMap (ingestion? fallback))

theorem isFaithful_of_run? (h : (Bridge.start fallback).run? events = some b) :
    IsFaithful fallback events b := by
  have hrun := run_of_run? h
  obtain ⟨hnodup, hmem⟩ := hrun.nodup_order_and_mem_order_iff
  constructor
  . exact hrun.fallback_eq
  . intro n a ha
    exact hrun.exists_hand_of_accepted? (Concurrent.State.accepted?_eq_some_iff.2 ha)
  . exact hrun.length_greetings
  . exact hrun.exists_placements
  . exact hnodup
  . exact hmem
  . intro keep hkeep
    exact Concurrent.replay_filter hkeep hrun.replay_serial.1
  . exact hrun.registry_eq

def outage : List Event :=
  [.poll ⟨0, 0⟩ (.message "esp/status/aa" (Utf8.encode "available".toList)),
    .errand (.arrive "AA" .reserve), .errand (.lease 0), .errand (.lock 0), .errand (.plan 0),
    .hand 0, .errand (.unlock 0), .errand (.check 0), .errand (.leave 0),
    .poll ⟨1, 0⟩ .accepted, .greet 0, .poll ⟨1, 0⟩ .subscribed,
    .errand (.arrive "aa" .reserve), .errand (.lease 1), .errand (.lock 1), .errand (.plan 1),
    .poll ⟨2, 0⟩ (.message "esp/status/aa" (Utf8.encode "booked".toList)),
    -- This message is not UTF-8.
    .poll ⟨2, 0⟩ (.message "esp/status/aa" [0xFF]),
    .hand 1, .transmit, .errand (.unlock 1), .errand (.check 1), .errand (.leave 1),
    .errand (.arrive "A-A" .release), .errand (.lease 2), .errand (.lock 2), .errand (.plan 2),
    .poll ⟨3, 0⟩ .failure, .hand 2, .errand (.unlock 2)]

theorem isFaithful_outage :
    ∃ b, (Bridge.start none).run? outage = some b ∧
      (List.range 3).map (fun n => (b.dispatcher.accepted? n).isSome) = [false, true, false] ∧
      b.dispatcher.order (history none outage) = [0, 1, 2] ∧
      IsFaithful none outage b := by
  have hrun : ((Bridge.start none).run? outage).map (fun b =>
      ((List.range 3).map (fun n => (b.dispatcher.accepted? n).isSome),
        b.dispatcher.order (history none outage))) = some ([false, true, false], [0, 1, 2]) := by
    decide +kernel
  obtain ⟨b, hb, h⟩ := Option.map_eq_some_iff.1 hrun
  obtain ⟨haccepted, horder⟩ := Prod.mk.inj h
  exact ⟨b, hb, haccepted, horder, isFaithful_of_run? hb⟩

end LockFleet.Broker.Bridge
