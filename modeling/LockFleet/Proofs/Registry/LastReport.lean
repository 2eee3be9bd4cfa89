import LockFleet.Proofs.Registry.Delivery

/-!
This module contains the account that a registry gives of the reports it was handed: the message and the
number that it knows of a device are those of the last report it accepted, and the state is that of the
last one that was not silent about it.
-/

namespace LockFleet

def ReportedState.named? : ReportedState → Option LifecycleState
  | known state => some state
  | unresolved => none
  | silent => none

namespace Registry

def Delivery.event (x : Delivery) : Event :=
  .apply x.now x.id x.report x.sequence

def deliver (g : Registry) (calls : List Delivery) : Registry :=
  g.run (calls.map Delivery.event)

def accepted (g : Registry) : List Delivery → List Delivery
  | [] => []
  | x :: calls =>
    let (isRecorded, g) := g.apply x.now x.id x.report x.sequence
    if isRecorded then x :: accepted g calls else accepted g calls

def recorded (g : Registry) : List Event → List Delivery
  | [] => []
  | e :: events => (g.recording? e).toList ++ recorded (g.step e) events

def ofDevice (id : DeviceId) (calls : List Delivery) : List Delivery :=
  calls.filter fun x => x.id == id

def telling (calls : List Delivery) : List Delivery :=
  calls.filter fun x => x.report.state != .silent

def stateOf? (past : List Delivery) : Option LifecycleState :=
  (telling past).getLast?.bind fun x => x.report.state.named?

def recordOf? (past : List Delivery) : Option DeviceRecord :=
  past.getLast?.map fun x => ⟨x.report.message, stateOf? past, x.sequence, x.now⟩

variable {g : Registry} {past : List Delivery}

@[simp]
theorem deliver_nil (g : Registry) : g.deliver [] = g :=
  rfl

theorem deliver_cons (g : Registry) (x : Delivery) (calls : List Delivery) :
    g.deliver (x :: calls) = (g.apply x.now x.id x.report x.sequence).2.deliver calls :=
  rfl

theorem deliver_append (g : Registry) (before after : List Delivery) :
    g.deliver (before ++ after) = (g.deliver before).deliver after := by
  unfold deliver
  rw [List.map_append, run_append]

theorem accepted_cons_of_isStale {x : Delivery} (h : g.isStale x.id x.sequence = true)
    (calls : List Delivery) : g.accepted (x :: calls) = g.accepted calls := by
  simp only [accepted, apply_of_isStale h]
  rfl

theorem accepted_cons_of_not_isStale {x : Delivery} (h : g.isStale x.id x.sequence = false)
    (calls : List Delivery) : g.accepted (x :: calls) = x :: (g.record x).accepted calls := by
  simp only [accepted, apply_of_not_isStale h]
  rfl

theorem ofDevice_concat (id : DeviceId) (past : List Delivery) (x : Delivery) :
    ofDevice id (past ++ [x])
      = if x.id = id then ofDevice id past ++ [x] else ofDevice id past := by
  unfold ofDevice
  rw [List.filter_append]
  split
  . next hid => simp [hid]
  . next hid => simp [hid]

theorem mem_ofDevice {id : DeviceId} {x : Delivery} :
    x ∈ ofDevice id past ↔ x ∈ past ∧ x.id = id := by
  simp [ofDevice]

theorem stateOf?_concat (past : List Delivery) (x : Delivery) :
    stateOf? (past ++ [x]) = x.report.state.resolve (stateOf? past) := by
  unfold stateOf? telling
  rw [List.filter_append]
  cases hstate : x.report.state <;>
    simp [hstate, ReportedState.named?, ReportedState.resolve]

theorem recordOf?_concat (past : List Delivery) (x : Delivery) :
    recordOf? (past ++ [x])
      = some ⟨x.report.message, x.report.state.resolve (stateOf? past), x.sequence, x.now⟩ := by
  unfold recordOf?
  rw [List.getLast?_concat, stateOf?_concat]
  rfl

theorem bind_state_recordOf? (past : List Delivery) :
    (recordOf? past).bind DeviceRecord.state = stateOf? past := by
  unfold recordOf?
  cases hlast : past.getLast? with
  | none =>
    rw [List.getLast?_eq_none_iff.1 hlast]
    rfl
  | some x => rfl

structure Recalls (g : Registry) (past : List Delivery) : Prop where
  record : ∀ id, g.get? id = recordOf? (ofDevice id past)
  ascending : ∀ id, (ofDevice id past).Pairwise fun x y => x.sequence.value ≤ y.sequence.value

namespace Recalls

theorem empty : Recalls empty [] := by
  constructor
  . intro id
    rfl
  . intro id
    exact List.Pairwise.nil

theorem le_of_getLast? (h : Recalls g past) {id : DeviceId} {last y : Delivery}
    (hlast : (ofDevice id past).getLast? = some last) (hy : y ∈ ofDevice id past) :
    y.sequence.value ≤ last.sequence.value := by
  have hascending := h.ascending id
  obtain ⟨earlier, hconcat⟩ := List.getLast?_eq_some_iff.1 hlast
  rw [hconcat] at hascending hy
  rcases List.mem_append.1 hy with hearlier | hself
  . exact (List.pairwise_append.1 hascending).2.2 y hearlier last (List.mem_singleton_self last)
  . cases List.mem_singleton.1 hself
    apply Nat.le_refl

theorem not_isStale_iff (h : Recalls g past) {id : DeviceId} {sequence : Sequence} :
    g.isStale id sequence = false ↔
      ∀ y ∈ ofDevice id past, y.sequence.value ≤ sequence.value := by
  rw [isStale_eq_false_iff, h.record]
  unfold recordOf?
  cases hlast : (ofDevice id past).getLast? with
  | none =>
    rw [List.getLast?_eq_none_iff.1 hlast]
    simp
  | some last =>
    constructor
    . intro hle y hy
      exact Nat.le_trans (h.le_of_getLast? hlast hy) (hle _ rfl)
    . intro hall r hr
      cases hr
      exact hall last (List.mem_of_getLast? hlast)

theorem record_concat (h : Recalls g past) {x : Delivery}
    (hx : g.isStale x.id x.sequence = false) : Recalls (g.record x) (past ++ [x]) := by
  constructor
  . intro id
    rw [get?_record, ofDevice_concat]
    split
    . next hid =>
      subst hid
      rw [recordOf?_concat]
      unfold recordAfter
      rw [h.record, bind_state_recordOf?]
    . exact h.record id
  . intro id
    rw [ofDevice_concat]
    split
    . next hid =>
      subst hid
      rw [List.pairwise_append]
      refine ⟨h.ascending x.id, List.pairwise_singleton _ _, ?_⟩
      intro y hy z hz
      rw [List.mem_singleton.1 hz]
      exact h.not_isStale_iff.1 hx y hy
    . exact h.ascending id

theorem deliver (h : Recalls g past) (calls : List Delivery) :
    Recalls (g.deliver calls) (past ++ g.accepted calls) := by
  induction calls generalizing g past with
  | nil => simpa [accepted] using h
  | cons x calls ih =>
    rw [deliver_cons]
    cases hstale : g.isStale x.id x.sequence with
    | true =>
      rw [accepted_cons_of_isStale hstale, apply_of_isStale hstale]
      exact ih h
    | false =>
      rw [accepted_cons_of_not_isStale hstale, apply_of_not_isStale hstale, List.append_cons]
      exact ih (h.record_concat hstale)

theorem step (h : Recalls g past) (e : Event) :
    Recalls (g.step e) (past ++ (g.recording? e).toList) := by
  cases hx : g.recording? e with
  | none =>
    rw [step_of_recording?_eq_none hx, Option.toList_none, List.append_nil]
    exact h
  | some x =>
    rw [step_of_recording? hx, Option.toList_some]
    exact h.record_concat (not_isStale_of_recording? hx)

theorem run (h : Recalls g past) (events : List Event) :
    Recalls (g.run events) (past ++ g.recorded events) := by
  induction events generalizing g past with
  | nil => simpa [recorded] using h
  | cons e events ih =>
    rw [run_cons, recorded, ← List.append_assoc]
    exact ih (h.step e)

theorem isSome_get?_iff (h : Recalls g past) {id : DeviceId} :
    (g.get? id).isSome = true ↔ ∃ x ∈ past, x.id = id := by
  rw [h.record]
  unfold recordOf?
  rw [Option.isSome_map, List.getLast?_isSome, ← List.isEmpty_eq_false_iff,
    List.isEmpty_eq_false_iff_exists_mem]
  exact exists_congr fun x => mem_ofDevice

end Recalls

theorem recalls_deliver (calls : List Delivery) :
    Recalls (empty.deliver calls) (empty.accepted calls) :=
  Recalls.empty.deliver calls

theorem fst_apply_eq_true_iff {x : Delivery} :
    (g.apply x.now x.id x.report x.sequence).1 = true ↔ g.isStale x.id x.sequence = false := by
  unfold apply
  split
  . next hstale => simp [hstale]
  . next hstale => simpa using hstale

theorem bind_state_apply {x : Delivery} {id : DeviceId}
    (h : x.id = id → x.report.state = .silent) :
    ((g.apply x.now x.id x.report x.sequence).2.get? id).bind DeviceRecord.state
      = (g.get? id).bind DeviceRecord.state := by
  cases hstale : g.isStale x.id x.sequence with
  | true => rw [apply_of_isStale hstale]
  | false =>
    rw [apply_of_not_isStale hstale, get?_record]
    split
    . next hid =>
      unfold recordAfter
      rw [h hid, hid]
      rfl
    . rfl

theorem bind_state_deliver {calls : List Delivery} {id : DeviceId}
    (h : ∀ x ∈ calls, x.id = id → x.report.state = .silent) :
    ((g.deliver calls).get? id).bind DeviceRecord.state = (g.get? id).bind DeviceRecord.state := by
  induction calls generalizing g with
  | nil => rfl
  | cons x calls ih =>
    rw [deliver_cons, ih fun y hy => h y (List.mem_cons_of_mem x hy)]
    exact bind_state_apply (h x List.mem_cons_self)

/--
What holds of a device after deliveries to an empty registry. Of its own deliveries exactly those were
recorded that had no lower number than one that was recorded before. The last of them gives the message
and the number, and the last one that is not silent gives the state. A silent one leaves the state as it
is, and as open as it is.
-/
structure FollowsPast (calls : List Delivery) (id : DeviceId) : Prop where
  recorded_iff : ∀ before x after, calls = before ++ x :: after → x.id = id →
    (((empty.deliver before).apply x.now x.id x.report x.sequence).1 = true ↔
      ∀ y ∈ ofDevice id (empty.accepted before), y.sequence.value ≤ x.sequence.value)
  message : ((empty.deliver calls).get? id).map DeviceRecord.message
    = (ofDevice id (empty.accepted calls)).getLast?.map fun x => x.report.message
  sequence : ((empty.deliver calls).get? id).map DeviceRecord.sequence
    = (ofDevice id (empty.accepted calls)).getLast?.map Delivery.sequence
  state : ((empty.deliver calls).get? id).bind DeviceRecord.state
    = (telling (ofDevice id (empty.accepted calls))).getLast?.bind fun x => x.report.state.named?
  silent : ∀ before x after, calls = before ++ x :: after → x.report.state = .silent →
    ((empty.deliver (before ++ [x])).get? id).bind DeviceRecord.state
      = ((empty.deliver before).get? id).bind DeviceRecord.state
  cleared : ∀ before x after, calls = before ++ x :: after → x.id = id →
    x.report.state = .unresolved →
    ((empty.deliver before).apply x.now x.id x.report x.sequence).1 = true →
    (∀ y ∈ after, y.id = id → y.report.state = .silent) →
    ((empty.deliver calls).get? id).bind DeviceRecord.state = none

theorem followsPast (calls : List Delivery) (id : DeviceId) : FollowsPast calls id := by
  have hrecord := (recalls_deliver calls).record id
  constructor
  . rintro before x after _ rfl
    rw [fst_apply_eq_true_iff, (recalls_deliver before).not_isStale_iff]
  . rw [hrecord]
    unfold recordOf?
    rw [Option.map_map]
    rfl
  . rw [hrecord]
    unfold recordOf?
    rw [Option.map_map]
    rfl
  . rw [hrecord, bind_state_recordOf?]
    rfl
  . intro before x after _ hsilent
    rw [deliver_append]
    exact bind_state_apply fun _ => hsilent
  . rintro before x after rfl rfl hunresolved hrecorded hsilent
    rw [deliver_append, deliver_cons, bind_state_deliver hsilent,
      apply_of_not_isStale (fst_apply_eq_true_iff.1 hrecorded), get?_record, if_pos rfl]
    unfold recordAfter
    rw [Option.bind_some, hunresolved]
    rfl

def clearedThenOnline (id : DeviceId) : List Delivery :=
  [⟨⟨0, 0⟩, id, BookingMessage.booked.report, .clamp 3⟩,
    ⟨⟨1, 0⟩, id, (StatusMessage.stateChanged "8").report, .clamp 3⟩,
    ⟨⟨2, 0⟩, id, BookingMessage.available.report, .clamp 2⟩,
    ⟨⟨3, 0⟩, id, StatusMessage.online.report, .clamp 4⟩]

theorem followsPast_clearedThenOnline :
    ∃ id, FollowsPast (clearedThenOnline id) id ∧
      (empty.accepted (clearedThenOnline id)).map (fun x => x.sequence.value) = [3, 3, 4] ∧
      (empty.deliver (clearedThenOnline id)).get? id
        = some ⟨"ESP32 online", none, .clamp 4, ⟨3, 0⟩⟩ := by
  let id : DeviceId := (DeviceId.ofText? "aa").get rfl
  exact ⟨id, followsPast (clearedThenOnline id) id, by decide +kernel, by decide +kernel⟩

end Registry
end LockFleet
