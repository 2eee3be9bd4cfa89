import LockFleet.Registry.Basic

/-!
This module contains histories of a registry: what happens to it, one event after the other.
-/

namespace LockFleet.Registry

inductive Event where
  | observe (now : Instant) (id : DeviceId) (report : Report)
  | apply (now : Instant) (id : DeviceId) (report : Report) (sequence : Sequence)
  | ingest (now : Instant) (topic payload : String) (fallback : Option DeviceId)

def step (g : Registry) : Event → Registry
  | .observe now id report => g.observe now id report
  | .apply now id report sequence => (g.apply now id report sequence).2
  | .ingest now topic payload fallback => (g.ingest now topic payload fallback).2

def run (g : Registry) (events : List Event) : Registry :=
  events.foldl step g

@[simp]
theorem run_nil (g : Registry) : g.run [] = g :=
  rfl

@[simp]
theorem run_cons (g : Registry) (e : Event) (events : List Event) :
    g.run (e :: events) = (g.step e).run events :=
  rfl

theorem run_append (g : Registry) (before after : List Event) :
    g.run (before ++ after) = (g.run before).run after := by
  simp [run]

end LockFleet.Registry
