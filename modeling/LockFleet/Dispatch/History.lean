import LockFleet.Dispatch.Basic
import LockFleet.Registry.History

/-!
This module contains histories of the dispatcher: commands, each with the verdict of the broker's
client, and reports of the devices between them.
-/

namespace LockFleet.Dispatch

inductive Event where
  | submit (raw : String) (c : Command) (verdict : Verdict)
  | report (e : Registry.Event)

abbrev Answer := Option (Except Failure Accepted)

def step (d : Dispatch) : Event → Answer × Dispatch
  | .submit raw c verdict =>
    let (answer, d) := d.submit verdict raw c
    (some answer, d)
  | .report e => (none, { d with registry := d.registry.step e })

def run (d : Dispatch) : List Event → List Answer × Dispatch
  | [] => ([], d)
  | e :: events =>
    let (answer, d) := d.step e
    let (answers, d) := run d events
    (answer :: answers, d)

@[simp]
theorem run_nil (d : Dispatch) : d.run [] = ([], d) :=
  rfl

@[simp]
theorem run_cons (d : Dispatch) (e : Event) (events : List Event) :
    d.run (e :: events)
      = ((d.step e).1 :: ((d.step e).2.run events).1, ((d.step e).2.run events).2) :=
  rfl

theorem run_append (d : Dispatch) (before after : List Event) :
    d.run (before ++ after)
      = ((d.run before).1 ++ ((d.run before).2.run after).1, ((d.run before).2.run after).2) := by
  induction before generalizing d with
  | nil => simp
  | cons e before ih => simp [ih]

theorem length_run (d : Dispatch) (events : List Event) :
    (d.run events).1.length = events.length := by
  induction events generalizing d with
  | nil => rfl
  | cons e events ih => simp [ih]

end LockFleet.Dispatch
