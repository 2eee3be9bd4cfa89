import LockFleet.Dispatch.Basic
import LockFleet.Registry.History

/-!
This module contains the dispatcher with many commands under way at once, as a machine of atomic
steps. The commands of a device share a slot, which holds the pending command and is locked by one of
them at a time. A slot is made for the first command that refers to it, and it is dropped from the
table when a command is done with it, nothing is pending, and no other command refers to it.
-/

namespace LockFleet.Concurrent

structure Slot where
  pending : Option Pending
  lockedBy : Option Nat
  deriving DecidableEq

def Slot.empty : Slot :=
  ⟨none, none⟩

abbrev Answer := Except Failure Accepted

structure Lease where
  device : DeviceId
  slot : Nat
  deriving DecidableEq

inductive Phase where
  | arrived
  | waiting (l : Lease)
  | locked (l : Lease)
  | planned (l : Lease) (a : Accepted) (sequence : Option Sequence)
  | answered (l : Lease) (answer : Answer) (pending : Option Pending)
  | unlocked (l : Lease) (answer : Option Answer)
  | checked (l : Lease) (answer : Option Answer)
  | gone (answer : Option Answer)

namespace Phase

def lease? : Phase → Option Lease
  | arrived => none
  | waiting l => some l
  | locked l => some l
  | planned l _ _ => some l
  | answered l _ _ => some l
  | unlocked l _ => some l
  | checked l _ => some l
  | gone _ => none

def slot? (p : Phase) : Option Nat :=
  p.lease?.map Lease.slot

end Phase

structure Errand where
  raw : String
  command : Command
  phase : Phase

structure State where
  registry : Registry
  table : Roster Nat
  /-- Every slot there ever was, in the order of their numbers. -/
  slots : List Slot
  errands : List Errand
  published : List Message

/--
An atomic step. Errands are told apart by their numbers.
-/
inductive Event where
  | arrive (raw : String) (c : Command)
  /-- The errand takes a reference to the slot of its device. One that names no device is turned away. -/
  | lease (n : Nat)
  | lock (n : Nat)
  | plan (n : Nat)
  | publish (n : Nat) (verdict : Verdict)
  /-- The errand remembers its command in the slot and unlocks it. -/
  | unlock (n : Nat)
  /-- The errand is given up while it waits for something. -/
  | giveUp (n : Nat)
  /-- The errand drops the slot from the table if it is of no more use. -/
  | check (n : Nat)
  /-- The errand gives its reference to the slot back. -/
  | leave (n : Nat)
  | report (e : Registry.Event)

namespace State

def empty : State :=
  ⟨.empty, .empty, [], [], []⟩

/--
How many references there are to a slot, where the table counts for one.
-/
def references (s : State) (slot : Nat) : Nat :=
  s.table.entries.countP (fun e => e.2 == slot)
    + s.errands.countP fun e => e.phase.slot? == some slot

def isBusy (s : State) : Bool :=
  s.errands.any fun e => e.phase.slot?.isSome

def setPhase (s : State) (n : Nat) (e : Errand) (phase : Phase) : State :=
  { s with errands := s.errands.set n { e with phase := phase } }

def setSlot (s : State) (slot : Nat) (t : Slot) : State :=
  { s with slots := s.slots.set slot t }

def addSlot (s : State) (device : DeviceId) : State :=
  { s with
    slots := s.slots ++ [.empty]
    table := s.table.insert device s.slots.length }

def unlock (s : State) (slot : Nat) (pending : Option Pending) : State :=
  { s with slots := s.slots.modify slot fun t => ⟨pending.or t.pending, none⟩ }

def hand (s : State) (a : Accepted) : State :=
  { s with published := s.published ++ [⟨a.topic, a.payload⟩] }

def lease (s : State) (n : Nat) (e : Errand) (device : DeviceId) : State :=
  match s.table.get? device with
  | some slot => s.setPhase n e (.waiting ⟨device, slot⟩)
  | none => (s.addSlot device).setPhase n e (.waiting ⟨device, s.slots.length⟩)

def plan (s : State) (n : Nat) (e : Errand) (l : Lease) (t : Slot) : State :=
  let record := s.registry.get? l.device
  let kept := Pending.current? t.pending record
  let phase : Phase :=
    match Plan.plan l.device (record.map (Pending.assume t.pending)) e.command with
    | .ok a => .planned l a (record.map DeviceRecord.sequence)
    | .error r => .answered l (.error (.refused r)) none
  (s.setSlot l.slot { t with pending := kept }).setPhase n e phase

def publish (s : State) (n : Nat) (e : Errand) (l : Lease) (a : Accepted)
    (sequence : Option Sequence) : Verdict → State
  | .error failure => s.setPhase n e (.answered l (.error (.unpublished failure)) none)
  | .ok () =>
    let pending := Pending.ofCommand? e.command sequence
    (s.hand a).setPhase n e (.answered l (.ok a) pending)

/--
Drops a slot from the table if only the table and one errand refer to it and it holds nothing.
-/
def dropUnused (s : State) (l : Lease) : State :=
  if s.references l.slot = 2 ∧ s.slots[l.slot]? = some .empty then
    { s with table := s.table.erase l.device }
  else s

def errandStep? (s : State) (n : Nat) (e : Errand) (event : Event) : Option State :=
  match event, e.phase with
  | .lease _, .arrived =>
    match DeviceId.ofText? e.raw with
    | some device => some (s.lease n e device)
    | none => some (s.setPhase n e (.gone (some (.error (.invalidDevice e.raw)))))
  | .lock _, .waiting l =>
    match s.slots[l.slot]? with
    | some ⟨pending, none⟩ => some ((s.setSlot l.slot ⟨pending, some n⟩).setPhase n e (.locked l))
    | _ => none
  | .plan _, .locked l => (s.slots[l.slot]?).map (s.plan n e l)
  | .publish _ verdict, .planned l a sequence => some (s.publish n e l a sequence verdict)
  | .unlock _, .answered l answer pending =>
    some ((s.unlock l.slot pending).setPhase n e (.unlocked l (some answer)))
  | .giveUp _, .arrived => some (s.setPhase n e (.gone none))
  | .giveUp _, .waiting l => some (s.setPhase n e (.unlocked l none))
  | .giveUp _, .locked l => some ((s.unlock l.slot none).setPhase n e (.unlocked l none))
  | .giveUp _, .planned l _ _ => some ((s.unlock l.slot none).setPhase n e (.unlocked l none))
  | .check _, .unlocked l answer => some ((s.dropUnused l).setPhase n e (.checked l answer))
  | .leave _, .checked _ answer => some (s.setPhase n e (.gone answer))
  | _, _ => none

def step? (s : State) (event : Event) : Option State :=
  match event with
  | .arrive raw c => some { s with errands := s.errands ++ [⟨raw, c, .arrived⟩] }
  | .report e => some { s with registry := s.registry.step e }
  | .lease n | .lock n | .plan n | .publish n _ | .unlock n | .giveUp n | .check n | .leave n =>
    (s.errands[n]?).bind fun e => s.errandStep? n e event

def run? (s : State) (events : List Event) : Option State :=
  events.foldlM step? s

end State
end LockFleet.Concurrent
