import LockFleet.Proofs.Dispatch.Concern
import LockFleet.Proofs.Registry.Attribution
import LockFleet.Proofs.Topic.Classification

/-!
This module contains the proof that a message on the topic of a device is attributed to this device, and
that no other topics are read as topics of reports than those that have their shape.
-/

namespace LockFleet.Registry

open Topic (CommandRoot StatusRoot isWithin)

section

variable (g : Registry) (now : Instant) (root : StatusRoot) (payload : String)
  (fallback : Option DeviceId) {raw : String} {id : DeviceId}

theorem device?_ingest_topic (h : DeviceId.ofText? raw = some id) :
    (g.ingest now (root.topic (some raw)) payload fallback).1.device? = some id := by
  rw [device?_ingest, StatusRoot.classify?_topic root h, Option.bind_some]
  exact attribute?_of_ofText?_eq_some fallback id.ofText?_text

theorem get?_ingest_topic_of_ne (h : DeviceId.ofText? raw = some id) {other : DeviceId}
    (hother : other ≠ id) :
    (g.ingest now (root.topic (some raw)) payload fallback).2.get? other = g.get? other := by
  have hdevice : (Event.ingest now (root.topic (some raw)) payload fallback).device? = some id := by
    rw [← device?_ingest_topic g now root payload fallback h, device?_ingest]
    rfl
  apply get?_step_of_device?_ne (e := .ingest now (root.topic (some raw)) payload fallback)
  rw [hdevice]
  intro heq
  exact hother (Option.some.inj heq).symm

end

theorem status_topics_decode :
    (∀ (root : StatusRoot) (raw : String), (∃ c ∈ raw.toList, Text.isHexDigit c = true) →
      ∃ id, DeviceId.ofText? raw = some id ∧ normalAddress? raw = some id.text ∧
        StatusRoot.classify? (root.topic (some raw)) = some (root, some id.text) ∧
        ∀ (g : Registry) (now : Instant) (payload : String) (fallback : Option DeviceId),
          (g.ingest now (root.topic (some raw)) payload fallback).1.device? = some id ∧
          ∀ other, other ≠ id →
            (g.ingest now (root.topic (some raw)) payload fallback).2.get? other = g.get? other) ∧
    (∀ (topic level : String) (root : StatusRoot),
      StatusRoot.classify? topic = some (root, some level) ↔ root.Names level topic) ∧
    (∀ (topic : String) (root : StatusRoot),
      StatusRoot.classify? topic = some (root, none) ↔ root.IsBare topic) ∧
    (∀ (topic : String) (root root' : StatusRoot),
      isWithin topic root.base = true → isWithin topic root'.base = true → root = root') ∧
    ∀ (root : CommandRoot) (address : Option String),
      StatusRoot.classify? (root.topic address) = none := by
  refine ⟨?_, ?_, ?_, ?_, ?_⟩
  . intro root raw hdigit
    obtain ⟨id, hid⟩ := DeviceId.exists_ofText?_eq_some hdigit
    refine ⟨id, hid, DeviceId.normalAddress?_eq_of_ofText? hid, StatusRoot.classify?_topic root hid,
      ?_⟩
    intro g now payload fallback
    refine ⟨device?_ingest_topic g now root payload fallback hid, ?_⟩
    intro other hother
    exact get?_ingest_topic_of_ne g now root payload fallback hid hother
  . intro topic level root
    exact StatusRoot.classify?_eq_some_some_iff
  . intro topic root
    exact StatusRoot.classify?_eq_some_none_iff
  . intro topic root root' h h'
    exact StatusRoot.eq_of_isWithin h h'
  . intro root address
    exact CommandRoot.classify?_topic root address

theorem status_topics_decode_colons_and_slashes :
    (∃ id, DeviceId.ofText? "zz:Aa:0b" = some id ∧
      StatusRoot.classify? (StatusRoot.bookingStatus.topic (some "zz:Aa:0b"))
        = some (.bookingStatus, some id.text)) ∧
    StatusRoot.bookingStatus.Names "AA0B" "esp/booking/status//AA0B/x" ∧
    StatusRoot.logs.IsBare "esp/logs//" := by
  have hdigit : ∃ c ∈ "zz:Aa:0b".toList, Text.isHexDigit c = true := ⟨'A', by decide, by decide⟩
  obtain ⟨hround, hnames, hbare, _, _⟩ := status_topics_decode
  refine ⟨?_, (hnames _ _ _).1 (by decide +kernel), (hbare _ _).1 (by decide +kernel)⟩
  obtain ⟨id, hid, _, hclassify, _⟩ := hround .bookingStatus "zz:Aa:0b" hdigit
  exact ⟨id, hid, hclassify⟩

end LockFleet.Registry
