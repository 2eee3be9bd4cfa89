import LockFleet.Lifecycle

/-!
This module contains the transitions between lifecycle states, each with the reason that is given for
it, and the check of a requested transition against them.
-/

namespace LockFleet.Transition

open LifecycleState

def edges : LifecycleState → List (LifecycleState × String)
  | available =>
    [ (reserved, "Bike reserved by user"),
      (booked, "Bike rented directly"),
      (broken, "Issue detected when available"),
      (maintained, "Scheduled maintenance"),
      (unavailable, "Bike taken offline") ]
  | reserved =>
    [ (available, "Reservation cancelled"),
      (booked, "User picked up the bike") ]
  | booked =>
    [ (available, "Bike returned by user"),
      (broken, "Issue reported or detected during use"),
      (maintained, "Maintenance scheduled during use"),
      (unavailable, "Bike marked unavailable during use") ]
  | broken =>
    [ (maintained, "Maintenance started on broken bike"),
      (unavailable, "Bike permanently unavailable") ]
  | maintained =>
    [ (available, "Maintenance completed successfully"),
      (unavailable, "Bike deemed permanently unavailable after maintenance") ]
  | unavailable =>
    [ (available, "Bike brought back online"),
      (maintained, "Maintenance started on unavailable bike") ]

def allowed (current : LifecycleState) : List LifecycleState :=
  (edges current).map Prod.fst

def allows (current requested : LifecycleState) : Bool :=
  (edges current).any fun e => e.1 == requested

def reason? (current requested : LifecycleState) : Option String :=
  ((edges current).find? fun e => e.1 == requested).map Prod.snd

inductive Rejection where
  | alreadyIn (state : LifecycleState)
  | notAllowed (current requested : String) (allowed : List LifecycleState) (reason : String)
  | unknownCurrent (current requested : String)
  deriving DecidableEq, Repr

def notAllowedReason : String := "Transition not allowed"

def unknownCurrentReason : String := "Current state is not recognized"

def check (current requested : LifecycleState) : Except Rejection String :=
  if current = requested then .error (.alreadyIn current)
  else
    match reason? current requested with
    | some reason => .ok reason
    | none =>
      .error (.notAllowed current.label requested.label (allowed current) notAllowedReason)

def checkLabels (current requested : String) : Except Rejection String :=
  match ofLabel? current with
  | none => .error (.unknownCurrent current requested)
  | some c =>
    match ofLabel? requested with
    | some r => check c r
    | none => .error (.notAllowed current requested (allowed c) notAllowedReason)

end LockFleet.Transition
