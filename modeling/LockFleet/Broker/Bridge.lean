import LockFleet.Dispatch.Concurrent
import LockFleet.Dispatch.Publisher
import LockFleet.Text.Utf8

/-!
This module contains the bridge between the service and the broker. Commands go out through a queue of
limited length, and only while there is a connection. What comes in is recorded in the registry.
-/

namespace LockFleet.Broker

inductive Packet where
  | accepted
  | subscribed
  | message (topic : String) (payload : List UInt8)
  | other
  | failure
  deriving DecidableEq

inductive Outgoing where
  | subscription (filter : String)
  | message (m : Message)
  deriving DecidableEq

def queueCapacity : Nat := 64

/--
What is sent after each acceptance of the connection: the subscriptions, and a request to the device
that is responsible for bare topics, or to all devices, to report.
-/
def greeting (fallback : Option DeviceId) : List Outgoing :=
  Topic.StatusRoot.filters.map .subscription
    ++ [.message ⟨Topic.CommandRoot.status.topic (fallback.map DeviceId.text),
      Command.requestStatus.word⟩]

structure Bridge where
  fallback : Option DeviceId
  connected : Bool
  queue : List Outgoing
  sent : List Outgoing
  greetings : List (List Outgoing)
  dispatcher : Concurrent.State

namespace Bridge

def start (fallback : Option DeviceId) : Bridge :=
  ⟨fallback, false, [], [], [], .empty⟩

def hasRoom (b : Bridge) : Bool :=
  b.queue.length < queueCapacity

def publisher (b : Bridge) : Publisher :=
  .link b.connected b.hasRoom

def enqueue (b : Bridge) (request : Outgoing) : Bridge :=
  { b with queue := b.queue ++ [request] }

def report (b : Bridge) (e : Registry.Event) : Bridge :=
  { b with dispatcher := { b.dispatcher with registry := b.dispatcher.registry.step e } }

def poll (b : Bridge) (now : Instant) : Packet → Bridge
  | .accepted =>
    { b with connected := true, greetings := b.greetings ++ [greeting b.fallback] }
  | .subscribed => b
  | .message topic payload =>
    match Utf8.decode payload with
    | some text => b.report (.ingest now topic (String.ofList text) b.fallback)
    | none => b
  | .other => b
  | .failure => { b with connected := false }

inductive Event where
  | poll (now : Instant) (p : Packet)
  | greet (n : Nat)
  | transmit
  | hand (n : Nat)
  | errand (e : Concurrent.Event)

def hand? (b : Bridge) (n : Nat) : Option Bridge :=
  match b.dispatcher.errands[n]? with
  | some ⟨_, _, .planned _ a _⟩ =>
    let verdict := b.publisher.verdict
    (b.dispatcher.step? (.publish n verdict)).map fun dispatcher =>
      let b := { b with dispatcher := dispatcher }
      match verdict with
      | .ok () => b.enqueue (.message ⟨a.topic, a.payload⟩)
      | .error _ => b
  | _ => none

def step? (b : Bridge) : Event → Option Bridge
  | .poll now p => some (b.poll now p)
  | .greet n =>
    match b.greetings[n]? with
    | some (request :: rest) =>
      if b.hasRoom then some ({ b with greetings := b.greetings.set n rest }.enqueue request)
      else none
    | _ => none
  | .transmit =>
    match b.queue with
    | request :: rest => some { b with queue := rest, sent := b.sent ++ [request] }
    | [] => none
  | .hand n => b.hand? n
  | .errand (.publish _ _) => none
  | .errand (.report _) => none
  | .errand e => (b.dispatcher.step? e).map fun dispatcher => { b with dispatcher := dispatcher }

def run? (b : Bridge) (events : List Event) : Option Bridge :=
  events.foldlM step? b

end Bridge
end LockFleet.Broker
