import LockFleet.Registry.History

/-!
This module contains what an event does to a registry. Every event delivers at most one report, and a
report that is not stale replaces the record of its device. All that happens to a registry is said of
that one operation.
-/

namespace LockFleet

namespace Sequence

theorem ext {s t : Sequence} (h : s.value = t.value) : s = t := by
  cases s
  cases t
  cases h
  rfl

theorem value_next (s : Sequence) : s.next.value = min (s.value + 1) maxWord :=
  rfl

theorem value_next_of_lt {s : Sequence} (h : s.value < maxWord) : s.next.value = s.value + 1 := by
  rw [value_next]
  omega

theorem value_max (s t : Sequence) : (s.max t).value = Max.max s.value t.value := by
  unfold max
  split
  . rw [Nat.max_eq_right]
    omega
  . rw [Nat.max_eq_left]
    omega

end Sequence

namespace Registry

structure Delivery where
  now : Instant
  id : DeviceId
  report : Report
  sequence : Sequence

def reading? (topic payload : String) (fallback : Option DeviceId) :
    Option (DeviceId × DeviceMessage) :=
  match Topic.StatusRoot.classify? topic with
  | none => none
  | some (root, segment) =>
    match attribute? segment fallback with
    | none => none
    | some id =>
      match message? root payload with
      | some (.ok m) => some (id, m)
      | _ => none

section

variable (g : Registry) (now : Instant) {topic payload : String} {fallback : Option DeviceId}

theorem ingest_of_reading? {id : DeviceId} {m : DeviceMessage}
    (h : reading? topic payload fallback = some (id, m)) :
    g.ingest now topic payload fallback
      = (.applied id (((g.observe now id m.report).get? id).bind DeviceRecord.state),
          g.observe now id m.report) := by
  revert h
  unfold reading? ingest
  cases Topic.StatusRoot.classify? topic with
  | none => nofun
  | some c =>
    obtain ⟨root, segment⟩ := c
    dsimp only
    cases attribute? segment fallback with
    | none => nofun
    | some id' =>
      dsimp only
      cases message? root payload with
      | none => nofun
      | some result =>
        cases result with
        | error e => nofun
        | ok m' =>
          intro h
          cases h
          rfl

theorem ingest_of_reading?_eq_none (h : reading? topic payload fallback = none) :
    (∀ id state, (g.ingest now topic payload fallback).1 ≠ .applied id state) ∧
      (g.ingest now topic payload fallback).2 = g := by
  revert h
  unfold reading? ingest
  cases Topic.StatusRoot.classify? topic with
  | none => exact fun _ => ⟨nofun, rfl⟩
  | some c =>
    obtain ⟨root, segment⟩ := c
    dsimp only
    cases attribute? segment fallback with
    | none => exact fun _ => ⟨nofun, rfl⟩
    | some id =>
      dsimp only
      cases message? root payload with
      | none => exact fun _ => ⟨nofun, rfl⟩
      | some result =>
        cases result with
        | error e => exact fun _ => ⟨nofun, rfl⟩
        | ok m => nofun

end

def delivery? (g : Registry) : Event → Option Delivery
  | .observe now id report => some ⟨now, id, report, g.next⟩
  | .apply now id report sequence => some ⟨now, id, report, sequence⟩
  | .ingest now topic payload fallback =>
    (reading? topic payload fallback).map fun r => ⟨now, r.1, r.2.report, g.next⟩

def recording? (g : Registry) (e : Event) : Option Delivery :=
  (g.delivery? e).filter fun x => !g.isStale x.id x.sequence

def record (g : Registry) (x : Delivery) : Registry where
  records := g.records.insert x.id (g.recordAfter x.now x.id x.report x.sequence)
  next := g.next.max x.sequence.next

theorem isStale_eq_false_iff {g : Registry} {id : DeviceId} {sequence : Sequence} :
    g.isStale id sequence = false ↔
      ∀ r, g.get? id = some r → r.sequence.value ≤ sequence.value := by
  unfold isStale
  cases g.get? id <;> simp

theorem isStale_eq_true_iff {g : Registry} {id : DeviceId} {sequence : Sequence} :
    g.isStale id sequence = true ↔
      ∃ r, g.get? id = some r ∧ sequence.value < r.sequence.value := by
  unfold isStale
  cases g.get? id <;> simp

theorem apply_of_isStale {g : Registry} {x : Delivery} (h : g.isStale x.id x.sequence = true) :
    g.apply x.now x.id x.report x.sequence = (false, g) := by
  unfold apply
  rw [if_pos h]

theorem apply_of_not_isStale {g : Registry} {x : Delivery}
    (h : g.isStale x.id x.sequence = false) :
    g.apply x.now x.id x.report x.sequence = (true, g.record x) := by
  unfold apply
  rw [if_neg (by simp [h])]
  rfl

theorem step_eq_apply (g : Registry) (e : Event) :
    g.step e
      = match g.delivery? e with
        | some x => (g.apply x.now x.id x.report x.sequence).2
        | none => g := by
  cases e with
  | observe now id report => rfl
  | apply now id report sequence => rfl
  | ingest now topic payload fallback =>
    simp only [step, delivery?]
    cases hr : reading? topic payload fallback with
    | none => exact (ingest_of_reading?_eq_none g now hr).2
    | some r => rw [ingest_of_reading? g now hr]; rfl

theorem step_of_recording?_eq_none {g : Registry} {e : Event} (h : g.recording? e = none) :
    g.step e = g := by
  rw [step_eq_apply]
  unfold recording? at h
  split
  . next x hx =>
    rw [hx] at h
    simp only [Option.filter_eq_none_iff, Option.some.injEq, forall_eq',
      Bool.not_eq_true', Bool.not_eq_false] at h
    rw [apply_of_isStale h]
  . rfl

theorem delivery?_of_recording? {g : Registry} {e : Event} {x : Delivery}
    (h : g.recording? e = some x) : g.delivery? e = some x :=
  (Option.filter_eq_some_iff.1 h).1

theorem not_isStale_of_recording? {g : Registry} {e : Event} {x : Delivery}
    (h : g.recording? e = some x) : g.isStale x.id x.sequence = false := by
  simpa using (Option.filter_eq_some_iff.1 h).2

theorem step_of_recording? {g : Registry} {e : Event} {x : Delivery}
    (h : g.recording? e = some x) : g.step e = g.record x := by
  rw [step_eq_apply, delivery?_of_recording? h]
  dsimp
  rw [apply_of_not_isStale (not_isStale_of_recording? h)]

theorem sequence_le_of_recording? {g : Registry} {e : Event} {x : Delivery}
    (h : g.recording? e = some x) {r : DeviceRecord} (hr : g.get? x.id = some r) :
    r.sequence.value ≤ x.sequence.value :=
  isStale_eq_false_iff.1 (not_isStale_of_recording? h) r hr

theorem get?_record (g : Registry) (x : Delivery) (id : DeviceId) :
    (g.record x).get? id
      = if x.id = id then some (g.recordAfter x.now x.id x.report x.sequence) else g.get? id := by
  unfold record get?
  apply Roster.get?_insert

@[simp]
theorem get?_empty (id : DeviceId) : empty.get? id = none := rfl

def Later (before after : Option DeviceRecord) : Prop :=
  ∀ r, before = some r → ∃ r', after = some r' ∧ r.sequence.value ≤ r'.sequence.value

theorem Later.refl (record : Option DeviceRecord) : Later record record :=
  fun r h => ⟨r, h, Nat.le_refl _⟩

theorem later_step (g : Registry) (e : Event) (id : DeviceId) :
    Later (g.get? id) ((g.step e).get? id) := by
  cases h : g.recording? e with
  | none =>
    rw [step_of_recording?_eq_none h]
    apply Later.refl
  | some x =>
    rw [step_of_recording? h, get?_record]
    split
    . next hid =>
      subst hid
      intro r hr
      exact ⟨_, rfl, sequence_le_of_recording? h hr⟩
    . apply Later.refl

namespace Event

def FromMessage : Event → Prop
  | observe _ _ report => ∃ m : DeviceMessage, report = m.report
  | apply _ _ report _ => ∃ m : DeviceMessage, report = m.report
  | ingest .. => True

def Unnumbered : Event → Prop
  | apply .. => False
  | _ => True

end Event

theorem exists_message_of_recording? {g : Registry} {e : Event} {x : Delivery}
    (he : e.FromMessage) (h : g.recording? e = some x) :
    ∃ m : DeviceMessage, x.report = m.report := by
  have hx := delivery?_of_recording? h
  cases e with
  | observe now id report =>
    cases hx
    exact he
  | apply now id report sequence =>
    cases hx
    exact he
  | ingest now topic payload fallback =>
    obtain ⟨r, _, rfl⟩ := Option.map_eq_some_iff.1 hx
    exact ⟨r.2, rfl⟩

theorem sequence_of_delivery? {g : Registry} {e : Event} {x : Delivery} (he : e.Unnumbered)
    (h : g.delivery? e = some x) : x.sequence = g.next := by
  cases e with
  | observe now id report =>
    cases h
    rfl
  | apply now id report sequence => cases he
  | ingest now topic payload fallback =>
    obtain ⟨r, _, rfl⟩ := Option.map_eq_some_iff.1 h
    rfl

theorem sequence_of_recording? {g : Registry} {e : Event} {x : Delivery} (he : e.Unnumbered)
    (h : g.recording? e = some x) : x.sequence = g.next :=
  sequence_of_delivery? he (delivery?_of_recording? h)

theorem delivery?_eq_map (g g' : Registry) {e : Event} (he : e.Unnumbered) :
    g'.delivery? e = (g.delivery? e).map fun x => { x with sequence := g'.next } := by
  cases e with
  | observe now id report => rfl
  | apply now id report sequence => cases he
  | ingest now topic payload fallback =>
    unfold delivery?
    rw [Option.map_map]
    rfl

end Registry
end LockFleet
