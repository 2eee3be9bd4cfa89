import LockFleet.Plan

/-!
This module contains the dispatcher, which sends commands to the devices. Once a command that changes
the state of a device has been sent, the device is taken to be in the new state until it reports.
-/

namespace LockFleet

structure Pending where
  target : LifecycleState
  /-- The sequence number of the record that the command was checked against. -/
  sequence : Sequence
  deriving DecidableEq, Repr

namespace Pending

def current? (pending : Option Pending) (record : Option DeviceRecord) : Option Pending :=
  match record with
  | some r => pending.filter fun p => p.sequence == r.sequence
  | none => pending

def assume (pending : Option Pending) (record : DeviceRecord) : DeviceRecord :=
  match current? pending (some record) with
  | some p => record.assuming p.target
  | none => record

def ofCommand? (c : Command) (sequence : Option Sequence) : Option Pending :=
  match c.target?, sequence with
  | some target, some sequence => some ⟨target, sequence⟩
  | _, _ => none

end Pending

structure Message where
  topic : String
  payload : String
  deriving DecidableEq, Repr

abbrev Verdict := Except PublishError Unit

structure Dispatch where
  registry : Registry
  pending : Roster Pending
  published : List Message

namespace Dispatch

def empty : Dispatch :=
  ⟨.empty, .empty, []⟩

instance : Inhabited Dispatch :=
  ⟨empty⟩

def assumedRecord? (d : Dispatch) (id : DeviceId) : Option DeviceRecord :=
  (d.registry.get? id).map (Pending.assume (d.pending.get? id))

def settle (d : Dispatch) (id : DeviceId) : Dispatch :=
  match Pending.current? (d.pending.get? id) (d.registry.get? id) with
  | some _ => d
  | none => { d with pending := d.pending.erase id }

def remember (d : Dispatch) (id : DeviceId) (c : Command) : Dispatch :=
  match Pending.ofCommand? c ((d.registry.get? id).map DeviceRecord.sequence) with
  | some p => { d with pending := d.pending.insert id p }
  | none => d

def publish (d : Dispatch) (a : Accepted) : Dispatch :=
  { d with published := d.published ++ [⟨a.topic, a.payload⟩] }

def prepare (d : Dispatch) (id : DeviceId) (c : Command) : Except Failure Accepted × Dispatch :=
  match Plan.plan id (d.assumedRecord? id) c with
  | .ok a => (.ok a, d.settle id)
  | .error r => (.error (.refused r), d.settle id)

def send (d : Dispatch) (verdict : Verdict) (id : DeviceId) (c : Command) :
    Except Failure Accepted × Dispatch :=
  match d.prepare id c with
  | (.error e, d) => (.error e, d)
  | (.ok a, d) =>
    match verdict with
    | .error e => (.error (.unpublished e), d)
    | .ok () => (.ok a, (d.publish a).remember id c)

def submit (d : Dispatch) (verdict : Verdict) (raw : String) (c : Command) :
    Except Failure Accepted × Dispatch :=
  match DeviceId.ofText? raw with
  | none => (.error (.invalidDevice raw), d)
  | some id => d.send verdict id c

/--
As `submit`, but given up while the message waits to be handed over.
-/
def abandon (d : Dispatch) (raw : String) (c : Command) : Except Failure Accepted × Dispatch :=
  match DeviceId.ofText? raw with
  | none => (.error (.invalidDevice raw), d)
  | some id => d.prepare id c

def tracked (d : Dispatch) : Nat :=
  d.pending.size

end Dispatch
end LockFleet
