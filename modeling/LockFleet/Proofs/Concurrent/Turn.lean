import LockFleet.Dispatch.Concurrent

/-!
This module contains the turns of an errand, each with what it finds and what it leaves behind. Whatever
is proved of a step of the machine is proved of these turns.
-/

namespace LockFleet.Concurrent

open State

/--
The turns that an errand can take. Each of them leads to a new phase of the errand and changes what the
errands share, which is the rest of the state.
-/
inductive Turn (s : State) (n : Nat) (e : Errand) : Event → State → Phase → Prop where
  | turnAway (hp : e.phase = .arrived) (hid : DeviceId.ofText? e.raw = none) :
    Turn s n e (.lease n) s (.gone (some (.error (.invalidDevice e.raw))))
  | join {device slot} (hp : e.phase = .arrived) (hid : DeviceId.ofText? e.raw = some device)
      (hslot : s.table.get? device = some slot) :
    Turn s n e (.lease n) s (.waiting ⟨device, slot⟩)
  | found {device} (hp : e.phase = .arrived) (hid : DeviceId.ofText? e.raw = some device)
      (hslot : s.table.get? device = none) :
    Turn s n e (.lease n) (s.addSlot device) (.waiting ⟨device, s.slots.length⟩)
  | lock {l pending} (hp : e.phase = .waiting l) (ht : s.slots[l.slot]? = some ⟨pending, none⟩) :
    Turn s n e (.lock n) (s.setSlot l.slot ⟨pending, some n⟩) (.locked l)
  | plan {l t a} (hp : e.phase = .locked l) (ht : s.slots[l.slot]? = some t)
      (ha : Plan.plan l.device ((s.registry.get? l.device).map (Pending.assume t.pending))
        e.command = .ok a) :
    Turn s n e (.plan n)
      (s.setSlot l.slot { t with
        pending := Pending.current? t.pending (s.registry.get? l.device) })
      (.planned l a ((s.registry.get? l.device).map DeviceRecord.sequence))
  | refuse {l t r} (hp : e.phase = .locked l) (ht : s.slots[l.slot]? = some t)
      (hr : Plan.plan l.device ((s.registry.get? l.device).map (Pending.assume t.pending))
        e.command = .error r) :
    Turn s n e (.plan n)
      (s.setSlot l.slot { t with
        pending := Pending.current? t.pending (s.registry.get? l.device) })
      (.answered l (.error (.refused r)) none)
  | publish {l a sequence} (hp : e.phase = .planned l a sequence) :
    Turn s n e (.publish n (.ok ())) (s.hand a)
      (.answered l (.ok a) (Pending.ofCommand? e.command sequence))
  | fail {l a sequence} (failure : PublishError) (hp : e.phase = .planned l a sequence) :
    Turn s n e (.publish n (.error failure)) s (.answered l (.error (.unpublished failure)) none)
  | unlock {l answer pending} (hp : e.phase = .answered l answer pending) :
    Turn s n e (.unlock n) (s.unlock l.slot pending) (.unlocked l (some answer))
  | giveUp (hp : e.phase = .arrived) : Turn s n e (.giveUp n) s (.gone none)
  | withdraw {l} (hp : e.phase = .waiting l) : Turn s n e (.giveUp n) s (.unlocked l none)
  | abandon {l} (hp : e.phase = .locked l ∨ ∃ a sequence, e.phase = .planned l a sequence) :
    Turn s n e (.giveUp n) (s.unlock l.slot none) (.unlocked l none)
  | check {l answer} (hp : e.phase = .unlocked l answer) :
    Turn s n e (.check n) (s.dropUnused l) (.checked l answer)
  | leave {l answer} (hp : e.phase = .checked l answer) :
    Turn s n e (.leave n) s (.gone answer)

inductive Step (s : State) : Event → State → Prop where
  | arrive (raw : String) (c : Command) :
    Step s (.arrive raw c) { s with errands := s.errands ++ [⟨raw, c, .arrived⟩] }
  | report (r : Registry.Event) : Step s (.report r) { s with registry := s.registry.step r }
  | turn {n : Nat} {e : Errand} {event : Event} {shared : State} {p : Phase}
      (he : s.errands[n]? = some e) (h : Turn s n e event shared p) :
    Step s event (shared.setPhase n e p)

def Event.errand? : Event → Option Nat
  | .arrive _ _ | .report _ => none
  | .lease n | .lock n | .plan n | .publish n _ | .unlock n | .giveUp n | .check n | .leave n => some n

variable {s s' : State} {n : Nat} {e : Errand} {event : Event} {p : Phase}

theorem Turn.errand?_eq {shared : State} (h : Turn s n e event shared p) :
    event.errand? = some n := by
  cases h <;> rfl

theorem exists_turn_of_errandStep? (hn : event.errand? = some n)
    (h : s.errandStep? n e event = some s') :
    ∃ shared p, Turn s n e event shared p ∧ s' = shared.setPhase n e p := by
  unfold errandStep? at h
  split at h
  . next hp =>
    obtain rfl := Option.some.inj hn
    split at h
    . next device hid =>
      unfold State.lease at h
      split at h
      . next slot hslot => exact ⟨s, _, .join hp hid hslot, (Option.some.inj h).symm⟩
      . next hslot => exact ⟨s.addSlot device, _, .found hp hid hslot, (Option.some.inj h).symm⟩
    . next hid => exact ⟨s, _, .turnAway hp hid, (Option.some.inj h).symm⟩
  . next l hp =>
    obtain rfl := Option.some.inj hn
    split at h
    . next pending ht => exact ⟨_, _, .lock hp ht, (Option.some.inj h).symm⟩
    . cases h
  . next l hp =>
    obtain rfl := Option.some.inj hn
    obtain ⟨t, ht, rfl⟩ := Option.map_eq_some_iff.1 h
    unfold State.plan
    dsimp only
    split
    . next a ha => exact ⟨_, _, .plan hp ht ha, rfl⟩
    . next r hr => exact ⟨_, _, .refuse hp ht hr, rfl⟩
  . next verdict l a sequence hp =>
    obtain rfl := Option.some.inj hn
    cases verdict with
    | error failure => exact ⟨s, _, .fail failure hp, (Option.some.inj h).symm⟩
    | ok _ => exact ⟨s.hand a, _, .publish hp, (Option.some.inj h).symm⟩
  . next hp =>
    obtain rfl := Option.some.inj hn
    exact ⟨_, _, .unlock hp, (Option.some.inj h).symm⟩
  . next hp =>
    obtain rfl := Option.some.inj hn
    exact ⟨_, _, .giveUp hp, (Option.some.inj h).symm⟩
  . next hp =>
    obtain rfl := Option.some.inj hn
    exact ⟨_, _, .withdraw hp, (Option.some.inj h).symm⟩
  . next hp =>
    obtain rfl := Option.some.inj hn
    exact ⟨_, _, .abandon (.inl hp), (Option.some.inj h).symm⟩
  . next hp =>
    obtain rfl := Option.some.inj hn
    exact ⟨_, _, .abandon (.inr ⟨_, _, hp⟩), (Option.some.inj h).symm⟩
  . next hp =>
    obtain rfl := Option.some.inj hn
    exact ⟨_, _, .check hp, (Option.some.inj h).symm⟩
  . next hp =>
    obtain rfl := Option.some.inj hn
    exact ⟨_, _, .leave hp, (Option.some.inj h).symm⟩
  . cases h

theorem step_of_step? (h : s.step? event = some s') : Step s event s' := by
  have turn : ∀ n, event.errand? = some n →
      (s.errands[n]?).bind (fun e => s.errandStep? n e event) = some s' → Step s event s' := by
    intro n hn h
    obtain ⟨e, he, hstep⟩ := Option.bind_eq_some_iff.1 h
    obtain ⟨shared, p, hturn, rfl⟩ := exists_turn_of_errandStep? hn hstep
    exact .turn he hturn
  cases event with
  | arrive raw c =>
    cases h
    exact .arrive raw c
  | report r =>
    cases h
    exact .report r
  | lease n => exact turn n rfl h
  | lock n => exact turn n rfl h
  | plan n => exact turn n rfl h
  | publish n verdict => exact turn n rfl h
  | unlock n => exact turn n rfl h
  | giveUp n => exact turn n rfl h
  | check n => exact turn n rfl h
  | leave n => exact turn n rfl h

theorem State.run?_cons (s : State) (event : Event) (events : List Event) :
    s.run? (event :: events) = (s.step? event).bind fun s' => s'.run? events := by
  unfold run?
  rw [List.foldlM_cons]
  rfl

theorem run?_cons_eq_some {events : List Event} {s'' : State}
    (h : s.run? (event :: events) = some s'') :
    ∃ s', Step s event s' ∧ s'.run? events = some s'' := by
  rw [State.run?_cons] at h
  obtain ⟨s', hstep, hrun⟩ := Option.bind_eq_some_iff.1 h
  exact ⟨s', step_of_step? hstep, hrun⟩

end LockFleet.Concurrent
