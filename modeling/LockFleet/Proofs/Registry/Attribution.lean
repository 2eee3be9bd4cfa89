import LockFleet.Proofs.Device
import LockFleet.Registry.Basic

/-!
This module contains the rule by which a message from the broker is attributed to a device, and what it
means for the device that answers for topics without a device: it also answers for topics whose device
cannot be read.
-/

namespace LockFleet

def IngestOutcome.device? : IngestOutcome → Option DeviceId
  | applied id _ => some id
  | log id _ => some id
  | invalid id _ => some id
  | ignored => none

namespace Registry

open Topic (StatusRoot)

theorem attribute?_of_ofText?_eq_some {s : String} {id : DeviceId} (fallback : Option DeviceId)
    (h : DeviceId.ofText? s = some id) : attribute? (some s) fallback = some id := by
  unfold attribute?
  rw [Option.bind_some, h]

theorem attribute?_of_ofText?_eq_none {s : String} (fallback : Option DeviceId)
    (h : DeviceId.ofText? s = none) : attribute? (some s) fallback = fallback := by
  unfold attribute?
  rw [Option.bind_some, h]

theorem device?_ingest (g : Registry) (now : Instant) (topic payload : String)
    (fallback : Option DeviceId) :
    (g.ingest now topic payload fallback).1.device?
      = (StatusRoot.classify? topic).bind fun c => attribute? c.2 fallback := by
  unfold ingest
  split
  . next hc => simp [hc, IngestOutcome.device?]
  . next root segment hc =>
    rw [hc, Option.bind_some]
    split
    . next ha => rw [ha]; rfl
    . next id ha =>
      rw [ha]
      split <;> rfl

/--
The device that answers for bare topics is held responsible for a message only if the topic has no
device segment, or one that names this very device. It gets no message with a segment that has no
hexadecimal digit.
-/
def SparesFallback (g : Registry) (now : Instant) (topic payload : String) (fallback : DeviceId) :
    Prop :=
  let result := g.ingest now topic payload (some fallback)
  (result.1.device? = some fallback →
      (∃ root, StatusRoot.classify? topic = some (root, none)) ∨
      ∃ root s, StatusRoot.classify? topic = some (root, some s) ∧
        DeviceId.ofText? s = some fallback) ∧
  ∀ root s, StatusRoot.classify? topic = some (root, some s) →
    (∀ c ∈ s.toList, Text.isHexDigit c = false) →
      result.1.device? ≠ some fallback ∧ result.2.get? fallback = g.get? fallback

theorem sparesFallback_iff (g : Registry) (now : Instant) (topic payload : String)
    (fallback : DeviceId) :
    g.SparesFallback now topic payload fallback ↔
      ∀ root s, StatusRoot.classify? topic = some (root, some s) →
        ∃ c ∈ s.toList, Text.isHexDigit c = true := by
  unfold SparesFallback
  dsimp
  rw [device?_ingest]
  constructor
  . intro h root s hc
    apply Decidable.byContradiction
    intro hdigit
    have hnone : ∀ c ∈ s.toList, Text.isHexDigit c = false := by
      intro c hmem
      apply Bool.eq_false_iff.2
      intro hhex
      exact hdigit ⟨c, hmem, hhex⟩
    apply (h.2 root s hc hnone).1
    rw [hc, Option.bind_some]
    exact attribute?_of_ofText?_eq_none _ (DeviceId.ofText?_eq_none_iff.2 hnone)
  . intro h
    constructor
    . intro hdevice
      obtain ⟨⟨root, segment⟩, hc, hattr⟩ := Option.bind_eq_some_iff.1 hdevice
      cases segment with
      | none => exact Or.inl ⟨root, hc⟩
      | some s =>
        right
        refine ⟨root, s, hc, ?_⟩
        cases hid : DeviceId.ofText? s with
        | some id => rwa [attribute?_of_ofText?_eq_some _ hid] at hattr
        | none =>
          obtain ⟨c, hmem, hhex⟩ := h root s hc
          rw [DeviceId.ofText?_eq_none_iff.1 hid c hmem] at hhex
          cases hhex
    . intro root s hc hnone
      obtain ⟨c, hmem, hhex⟩ := h root s hc
      rw [hnone c hmem] at hhex
      cases hhex

theorem not_sparesFallback_unreadable_segment :
    ¬empty.SparesFallback ⟨0, 0⟩ "esp/status/zz" "available"
      ((DeviceId.ofText? "ffeedd").get rfl) := by
  intro h
  have hdevice : (empty.ingest ⟨0, 0⟩ "esp/status/zz" "available"
      (DeviceId.ofText? "ffeedd")).1.device? = DeviceId.ofText? "ffeedd" := by decide +kernel
  have hclassify : StatusRoot.classify? "esp/status/zz" = some (.status, some "zz") := by
    decide +kernel
  have hunreadable : DeviceId.ofText? "zz" = none := by decide +kernel
  exact (h.2 .status "zz" hclassify (DeviceId.ofText?_eq_none_iff.1 hunreadable)).1 hdevice

end Registry
end LockFleet
