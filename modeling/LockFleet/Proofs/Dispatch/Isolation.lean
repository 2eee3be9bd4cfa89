import LockFleet.Proofs.Dispatch.Chain
import LockFleet.Proofs.Dispatch.Concern

/-!
This module contains the proof that devices do not interfere: to a device, a run looks as if nothing had
happened to the other devices. Without the others, its reports and pending commands have other numbers,
but whether a pending command is still current does not depend on that.
-/

namespace LockFleet

open Message (sentTo)

theorem DeviceRecord.bind_state_eq {record record' : Option DeviceRecord}
    (h : record.map content = record'.map content) : record.bind state = record'.bind state := by
  have hbind : ∀ r : Option DeviceRecord, r.bind state = (r.map content).bind Prod.snd := by
    intro r
    cases r <;> rfl
  rw [hbind, hbind, h]

theorem Registry.content_record {g g' : Registry} {id : DeviceId}
    (h : (g.get? id).map DeviceRecord.content = (g'.get? id).map DeviceRecord.content)
    (x : Delivery) (sequence : Sequence) :
    ((g.record x).get? id).map DeviceRecord.content
      = ((g'.record { x with sequence := sequence }).get? id).map DeviceRecord.content := by
  rw [get?_record, get?_record]
  split
  . next hid =>
    subst hid
    unfold recordAfter DeviceRecord.content
    rw [DeviceRecord.bind_state_eq h]
    rfl
  . exact h

namespace Dispatch

def Event.isForeign (id : DeviceId) (e : Event) : Bool :=
  e.device?.any (· != id)

def Event.IsUnnumbered : Event → Prop
  | submit .. => True
  | report e => e.Unnumbered

def withoutOthers (id : DeviceId) (events : List Event) : List Event :=
  events.filter fun e => !e.isForeign id

def answersWithoutOthers (id : DeviceId) (events : List Event) (answers : List Answer) :
    List Answer :=
  ((events.zip answers).filter fun x => !x.1.isForeign id).map Prod.snd

variable {d own : Dispatch} {id : DeviceId} {last : Option LifecycleState} {e : Event}

theorem Event.device?_ne_of_isForeign (h : e.isForeign id = true) : e.device? ≠ some id := by
  intro hid
  unfold isForeign at h
  rw [hid] at h
  simp at h

theorem Event.device?_of_not_isForeign (h : e.isForeign id = false) {i : DeviceId}
    (hi : e.device? = some i) : i = id := by
  unfold isForeign at h
  rw [hi] at h
  simpa using h

theorem Standing.of_agreeOn (h : Standing d id last) (ha : AgreeOn id own d) :
    Standing own id last := by
  constructor
  . rw [ha.record_eq, ha.pending_eq]
    exact h.timely
  . rw [ha.record_eq, ha.pending_eq]
    exact h.target_eq

theorem Standing.content_assumedRecord? (h : Standing d id last) :
    (d.assumedRecord? id).map DeviceRecord.content
      = ((d.registry.get? id).map DeviceRecord.content).map fun c => (c.1, last.or c.2) := by
  unfold assumedRecord?
  cases hr : d.registry.get? id with
  | none => rfl
  | some r =>
    have hmessage : (Pending.assume (d.pending.get? id) r).message = r.message := by
      unfold Pending.assume
      split <;> rfl
    simp only [Option.map_some, DeviceRecord.content]
    rw [h.state_assume hr, hmessage]

theorem isNumbered_step (h : d.registry.IsNumbered) (he : e.IsUnnumbered)
    (hcount : d.registry.next.value + (d.recording? e).toList.length ≤ maxWord) :
    (d.step e).2.registry.IsNumbered ∧
      (d.step e).2.registry.next.value
        = d.registry.next.value + (d.recording? e).toList.length := by
  cases e with
  | submit raw c verdict =>
    rw [step_submit]
    dsimp only
    rw [registry_submit]
    exact ⟨h, rfl⟩
  | report e => exact ⟨h.step he hcount, Registry.next_step he hcount⟩

/--
A dispatcher that has seen nothing of other devices mirrors another one as far as a device goes: the
device has said the same, the same command is pending, and the same messages were sent.
-/
structure Mirrors (id : DeviceId) (d own : Dispatch) (last : Option LifecycleState) : Prop where
  content_eq : (d.registry.get? id).map DeviceRecord.content
    = (own.registry.get? id).map DeviceRecord.content
  standing : Standing d id last
  standing_own : Standing own id last
  sent_eq : sentTo id d.published = own.published
  numbered : d.registry.IsNumbered
  numbered_own : own.registry.IsNumbered
  next_le : own.registry.next.value ≤ d.registry.next.value

namespace Mirrors

theorem empty (id : DeviceId) : Mirrors id .empty .empty none where
  content_eq := rfl
  standing := standing_empty id
  standing_own := standing_empty id
  sent_eq := rfl
  numbered := Registry.isNumbered_empty
  numbered_own := Registry.isNumbered_empty
  next_le := Nat.le_refl _

theorem step_foreign (h : Mirrors id d own last) (he : e.IsUnnumbered)
    (hforeign : e.isForeign id = true)
    (hcount : d.registry.next.value + (d.recording? e).toList.length ≤ maxWord) :
    Mirrors id (d.step e).2 own last := by
  have hagree := agreeOn_step d (Event.device?_ne_of_isForeign hforeign)
  obtain ⟨hnumbered, hnext⟩ := isNumbered_step h.numbered he hcount
  refine ⟨?_, h.standing.of_agreeOn hagree, h.standing_own, ?_, hnumbered, h.numbered_own, ?_⟩
  . rw [hagree.record_eq, h.content_eq]
  . rw [hagree.sent_eq, h.sent_eq]
  . have := h.next_le
    omega

theorem send_fst_eq (h : Mirrors id d own last) (verdict : Verdict) (c : Command) :
    (d.send verdict id c).1 = (own.send verdict id c).1 := by
  rw [send_fst, send_fst]
  congr 1
  apply Plan.plan_eq_of_content_eq
  rw [h.standing.content_assumedRecord?, h.standing_own.content_assumedRecord?, h.content_eq]

theorem submit_fst_eq (h : Mirrors id d own last) {raw : String}
    (hraw : ∀ i, DeviceId.ofText? raw = some i → i = id) (verdict : Verdict) (c : Command) :
    (d.submit verdict raw c).1 = (own.submit verdict raw c).1 := by
  cases hid : DeviceId.ofText? raw with
  | none =>
    rw [submit_of_ofText?_eq_none d verdict raw c hid,
      submit_of_ofText?_eq_none own verdict raw c hid]
  | some i =>
    rw [submit_of_ofText?_eq_some d verdict c hid, submit_of_ofText?_eq_some own verdict c hid,
      hraw i hid]
    exact h.send_fst_eq verdict c

theorem sentTo_handed_submit (d : Dispatch) {raw : String}
    (hraw : ∀ i, DeviceId.ofText? raw = some i → i = id) (verdict : Verdict) (c : Command) :
    sentTo id (handed (d.submit verdict raw c).1) = handed (d.submit verdict raw c).1 := by
  cases hid : DeviceId.ofText? raw with
  | none =>
    rw [submit_of_ofText?_eq_none d verdict raw c hid]
    rfl
  | some i =>
    rw [submit_of_ofText?_eq_some d verdict c hid, hraw i hid, sentTo_handed_send, if_pos rfl]

theorem submit (h : Mirrors id d own last) {raw : String}
    (hraw : ∀ i, DeviceId.ofText? raw = some i → i = id) (verdict : Verdict) (c : Command) :
    Mirrors id (d.submit verdict raw c).2 (own.submit verdict raw c).2
      ((d.commandedBy? id (.submit raw c verdict)).or last) := by
  have hanswer := h.submit_fst_eq hraw verdict c
  have hknown : (d.registry.get? id).isSome = (own.registry.get? id).isSome := by
    rw [← Option.isSome_map, h.content_eq, Option.isSome_map]
  have hcommanded : own.commandedBy? id (.submit raw c verdict)
      = d.commandedBy? id (.submit raw c verdict) := by
    unfold commandedBy?
    dsimp only
    rw [hanswer, hknown]
  refine ⟨?_, h.standing.submit raw c verdict, ?_, ?_, ?_, ?_, ?_⟩
  . rw [registry_submit, registry_submit]
    exact h.content_eq
  . rw [← hcommanded]
    exact h.standing_own.submit raw c verdict
  . rw [published_submit, published_submit, Message.sentTo_append, h.sent_eq,
      sentTo_handed_submit d hraw, hanswer]
  . rw [registry_submit]
    exact h.numbered
  . rw [registry_submit]
    exact h.numbered_own
  . rw [registry_submit, registry_submit]
    exact h.next_le

theorem report (h : Mirrors id d own last) {e : Registry.Event} (he : e.Unnumbered)
    (hcount : d.registry.next.value + (d.registry.recording? e).toList.length ≤ maxWord) :
    Mirrors id { d with registry := d.registry.step e } { own with registry := own.registry.step e }
      (if (d.registry.recording? e).any (fun x => x.id == id) then none else last) := by
  -- Both registries record the same report, each under its own next number.
  have hown : own.registry.recording? e = (d.registry.recording? e).map fun x =>
      { x with sequence := own.registry.next } := by
    rw [h.numbered.recording?_eq_delivery? he, h.numbered_own.recording?_eq_delivery? he]
    exact Registry.delivery?_eq_map d.registry own.registry he
  have hlength : (own.registry.recording? e).toList.length
      = (d.registry.recording? e).toList.length := by
    rw [hown]
    cases d.registry.recording? e <;> rfl
  have hany : (own.registry.recording? e).any (fun x => x.id == id)
      = (d.registry.recording? e).any (fun x => x.id == id) := by
    rw [hown, Option.any_map]
  have hle := h.next_le
  have hcount' : own.registry.next.value + (own.registry.recording? e).toList.length
      ≤ maxWord := by
    omega
  refine ⟨?_, h.standing.report h.numbered he, ?_, h.sent_eq, h.numbered.step he hcount,
    h.numbered_own.step he hcount', ?_⟩
  . dsimp only
    cases hx : d.registry.recording? e with
    | none =>
      rw [hx] at hown
      rw [Registry.step_of_recording?_eq_none hx, Registry.step_of_recording?_eq_none hown]
      exact h.content_eq
    | some x =>
      rw [hx] at hown
      rw [Registry.step_of_recording? hx, Registry.step_of_recording? hown]
      exact Registry.content_record h.content_eq x own.registry.next
  . rw [← hany]
    exact h.standing_own.report h.numbered_own he
  . dsimp only
    rw [Registry.next_step he hcount, Registry.next_step he hcount', hlength]
    exact Nat.add_le_add_right hle _

theorem step (h : Mirrors id d own last) (he : e.IsUnnumbered) (hown : e.isForeign id = false)
    (hcount : d.registry.next.value + (d.recording? e).toList.length ≤ maxWord) :
    (d.step e).1 = (own.step e).1 ∧ ∃ last, Mirrors id (d.step e).2 (own.step e).2 last := by
  cases e with
  | submit raw c verdict =>
    have hraw : ∀ i, DeviceId.ofText? raw = some i → i = id :=
      fun i hi => Event.device?_of_not_isForeign hown hi
    rw [step_submit, step_submit, h.submit_fst_eq hraw verdict c]
    exact ⟨rfl, _, h.submit hraw verdict c⟩
  | report e => exact ⟨rfl, _, h.report he hcount⟩

theorem run {events : List Event} (h : Mirrors id d own last)
    (hevents : ∀ e ∈ events, e.IsUnnumbered)
    (hcount : d.registry.next.value + d.recorded events ≤ maxWord) :
    answersWithoutOthers id events (d.run events).1 = (own.run (withoutOthers id events)).1 ∧
      ∃ last, Mirrors id (d.run events).2 (own.run (withoutOthers id events)).2 last := by
  induction events generalizing d own last with
  | nil => exact ⟨rfl, last, h⟩
  | cons e events ih =>
    have hevent : e.IsUnnumbered := hevents e List.mem_cons_self
    have hrest : ∀ e ∈ events, e.IsUnnumbered := fun e he => hevents e (List.mem_cons_of_mem _ he)
    simp only [recorded] at hcount
    have hfirst : d.registry.next.value + (d.recording? e).toList.length ≤ maxWord := by omega
    obtain ⟨_, hnext⟩ := isNumbered_step h.numbered hevent hfirst
    have hlater : (d.step e).2.registry.next.value + (d.step e).2.recorded events ≤ maxWord := by
      omega
    rw [run_cons]
    cases hforeign : e.isForeign id with
    | true =>
      have hstep := h.step_foreign hevent hforeign hfirst
      simpa [answersWithoutOthers, withoutOthers, hforeign] using ih hstep hrest hlater
    | false =>
      obtain ⟨hanswer, last', hstep⟩ := h.step hevent hforeign hfirst
      obtain ⟨hanswers, hmirrors⟩ := ih hstep hrest hlater
      have hevents : withoutOthers id (e :: events) = e :: withoutOthers id events := by
        simp [withoutOthers, hforeign]
      rw [hevents, run_cons, ← hanswer, ← hanswers]
      refine ⟨?_, hmirrors⟩
      simp [answersWithoutOthers, hforeign]

end Mirrors

theorem recorded_take_le (d : Dispatch) (events : List Event) (n : Nat) :
    d.recorded (events.take n) ≤ d.recorded events := by
  induction events generalizing d n with
  | nil => simp
  | cons e events ih =>
    cases n with
    | zero => simp [recorded]
    | succ n =>
      have := ih (d.step e).2 n
      simp only [List.take_succ_cons, recorded]
      omega

/--
To a device, a run looks as it does without the others: its commands have the same answers, it is sent the
same messages, and the record of it says the same.
-/
structure IsolatedIn (id : DeviceId) (events : List Event) : Prop where
  answers_eq : answersWithoutOthers id events (empty.run events).1
    = (empty.run (withoutOthers id events)).1
  sent_eq : sentTo id (empty.run events).2.published
    = (empty.run (withoutOthers id events)).2.published
  content_eq : ((empty.run events).2.registry.get? id).map DeviceRecord.content
    = ((empty.run (withoutOthers id events)).2.registry.get? id).map DeviceRecord.content

theorem isolatedIn_take {events : List Event} (hevents : ∀ e ∈ events, e.IsUnnumbered)
    (hcount : empty.recorded events ≤ maxWord) (id : DeviceId) (n : Nat) :
    IsolatedIn id (events.take n) := by
  have htake : ∀ e ∈ events.take n, e.IsUnnumbered :=
    fun e he => hevents e (List.mem_of_mem_take he)
  have hmax : empty.registry.next.value + empty.recorded (events.take n) ≤ maxWord := by
    have : empty.registry.next.value = 0 := rfl
    have := recorded_take_le empty events n
    omega
  obtain ⟨hanswers, last, hmirrors⟩ := (Mirrors.empty id).run htake hmax
  exact ⟨hanswers, hmirrors.sent_eq, hmirrors.content_eq⟩

def sideBySide : List Event :=
  [.report (.ingest ⟨0, 0⟩ "esp/status/bb" "available" none),
    .report (.ingest ⟨1, 0⟩ "esp/status/aa" "available" none), .submit "AA" .book (.ok ()),
    .report (.ingest ⟨2, 0⟩ "esp/booking/status/bb" "booked" none),
    .submit "zz" .requestStatus (.ok ()), .submit "b-b" .release (.ok ()),
    .submit "a-a" .reserve (.ok ())]

theorem sideBySide_isolatedIn :
    ((empty.run sideBySide).2.pending.get? ((DeviceId.ofText? "aa").get rfl)).map
        (fun p => p.sequence.value) = some 1 ∧
    ((empty.run (withoutOthers ((DeviceId.ofText? "aa").get rfl) sideBySide)).2.pending.get?
        ((DeviceId.ofText? "aa").get rfl)).map (fun p => p.sequence.value) = some 0 ∧
    ∀ n, IsolatedIn ((DeviceId.ofText? "aa").get rfl) (sideBySide.take n) := by
  have hevents : ∀ e ∈ sideBySide, e.IsUnnumbered := by
    intro e he
    simp only [sideBySide, List.mem_cons, List.not_mem_nil, or_false] at he
    rcases he with rfl | rfl | rfl | rfl | rfl | rfl | rfl <;> trivial
  have hcount : empty.recorded sideBySide ≤ maxWord := by decide +kernel
  refine ⟨by decide +kernel, by decide +kernel, ?_⟩
  exact isolatedIn_take hevents hcount _

end Dispatch
end LockFleet
