import LockFleet.Api.Service
import LockFleet.Proofs.Device
import LockFleet.Proofs.Dispatch.Submit
import LockFleet.Proofs.Registry.Attribution
import LockFleet.Proofs.Topic.Classification
import LockFleet.Settings.Basic

/-!
This module contains the proof that it makes no difference how an address is spelled. Two texts with the
same hexadecimal digits lead to the same answers, topics and records wherever an address is taken in.
-/

namespace LockFleet

open Topic (StatusRoot)

structure Interchangeable (raw raw' : String) : Prop where
  submit : ∀ (d : Dispatch) (verdict : Verdict) (c : Command),
    d.submit verdict raw c = d.submit verdict raw' c
  getDevice : ∀ d : Dispatch, Api.getDevice d raw = Api.getDevice d raw'
  ofAddress : ∀ base : String, Topic.ofAddress base (some raw) = Topic.ofAddress base (some raw')
  ingest : ∀ (root : StatusRoot) (topic topic' : String), root.Names raw topic →
    root.Names raw' topic' → ∀ (g : Registry) (now : Instant) (payload : String)
      (fallback : Option DeviceId),
      g.ingest now topic payload fallback = g.ingest now topic' payload fallback
  fallbackDevice : ∀ s : BrokerSettings,
    { s with deviceAddress := some raw }.fallbackDevice
      = { s with deviceAddress := some raw' }.fallbackDevice

variable {raw raw' : String} {id : DeviceId}

theorem Api.getDevice_eq_of_ofText? (d : Dispatch) (h : DeviceId.ofText? raw = some id) :
    getDevice d raw = getDevice d id.text := by
  unfold getDevice
  rw [h, id.ofText?_text]

theorem Registry.ingest_eq_of_names {root : StatusRoot} {topic topic' : String}
    (h : DeviceId.ofText? raw = some id) (h' : DeviceId.ofText? raw' = some id)
    (hnames : root.Names raw topic) (hnames' : root.Names raw' topic') (g : Registry)
    (now : Instant) (payload : String) (fallback : Option DeviceId) :
    g.ingest now topic payload fallback = g.ingest now topic' payload fallback := by
  unfold ingest
  rw [StatusRoot.classify?_eq_some_some_iff.2 hnames,
    StatusRoot.classify?_eq_some_some_iff.2 hnames']
  dsimp only
  rw [attribute?_of_ofText?_eq_some fallback h, attribute?_of_ofText?_eq_some fallback h']

theorem interchangeable_of_ofText? (h : DeviceId.ofText? raw = some id)
    (h' : DeviceId.ofText? raw' = some id) : Interchangeable raw raw' := by
  constructor
  . intro d verdict c
    rw [Dispatch.submit_of_ofText?_eq_some d verdict c h,
      Dispatch.submit_of_ofText?_eq_some d verdict c h']
  . intro d
    rw [Api.getDevice_eq_of_ofText? d h, Api.getDevice_eq_of_ofText? d h']
  . intro base
    rw [Topic.ofAddress_eq_of_ofText? base h, Topic.ofAddress_eq_of_ofText? base h']
  . intro root topic topic' hnames hnames' g now payload fallback
    exact Registry.ingest_eq_of_names h h' hnames hnames' g now payload fallback
  . intro s
    unfold BrokerSettings.fallbackDevice
    dsimp only
    rw [Option.bind_some, Option.bind_some, h, h']

namespace DeviceId

theorem text_of_ofText? (h : ofText? raw = some id) :
    id.text.toList = (digitValues raw.toList).map digitOfValue := by
  rw [ofText?_eq_some_iff.1 h, addressDigits_eq_map_digitValues]

theorem exists_ofText?_both_iff :
    (∃ id, ofText? raw = some id ∧ ofText? raw' = some id) ↔
      digitValues raw.toList = digitValues raw'.toList ∧ digitValues raw.toList ≠ [] := by
  constructor
  . rintro ⟨id, h, h'⟩
    refine ⟨?_, ?_⟩
    . rw [← addressDigits_eq_iff, ← ofText?_eq_some_iff.1 h, ofText?_eq_some_iff.1 h']
    . intro hnil
      have htext := text_of_ofText? h
      rw [hnil] at htext
      exact id.toList_text_ne_nil htext
  . rintro ⟨hsame, hne⟩
    cases h : ofText? raw with
    | none => exact absurd (digitValues_eq_nil_iff.2 (ofText?_eq_none_iff.1 h)) hne
    | some id =>
      refine ⟨id, rfl, ?_⟩
      rw [ofText?_eq_some_iff, ofText?_eq_some_iff.1 h, addressDigits_eq_iff]
      exact hsame

theorem spellings_name_one_device :
    (∀ raw : String, ofText? raw = none ↔ ∀ c ∈ raw.toList, Text.isHexDigit c = false) ∧
    (∀ (raw : String) (id : DeviceId), ofText? raw = some id →
      id.text ≠ "" ∧ (∀ c ∈ id.text.toList, isAddressDigit c = true) ∧
        id.text.toList = (digitValues raw.toList).map digitOfValue ∧ ofText? id.text = some id) ∧
    (∀ raw raw' : String, (∃ id, ofText? raw = some id ∧ ofText? raw' = some id) ↔
      digitValues raw.toList = digitValues raw'.toList ∧ digitValues raw.toList ≠ []) ∧
    ∀ (raw raw' : String) (id : DeviceId), ofText? raw = some id → ofText? raw' = some id →
      Interchangeable raw raw' := by
  refine ⟨?_, ?_, ?_, ?_⟩
  . intro raw
    exact ofText?_eq_none_iff
  . intro raw id h
    exact ⟨id.nonempty, id.normal, text_of_ofText? h, id.ofText?_text⟩
  . intro raw raw'
    exact exists_ofText?_both_iff
  . intro raw raw' id h h'
    exact interchangeable_of_ofText? h h'

theorem spellings_name_one_device_mixed_case :
    ∃ id, ofText? "\uff21-aa:0B" = some id ∧ ofText? "Aa0b" = some id ∧ id.text ≠ "" ∧
      StatusRoot.status.Names "\uff21-aa:0B" "esp/status//\uff21-aa:0B/x" ∧
      StatusRoot.status.Names "Aa0b" "esp/status/Aa0b" ∧
      Registry.empty.ingest ⟨0, 0⟩ "esp/status//\uff21-aa:0B/x" "booked" none
        = Registry.empty.ingest ⟨0, 0⟩ "esp/status/Aa0b" "booked" none := by
  have hdigits : digitValues "\uff21-aa:0B".toList = digitValues "Aa0b".toList ∧
      digitValues "\uff21-aa:0B".toList ≠ [] := by decide +kernel
  have hnames : StatusRoot.status.Names "\uff21-aa:0B" "esp/status//\uff21-aa:0B/x" :=
    StatusRoot.classify?_eq_some_some_iff.1 (by decide +kernel)
  have hnames' : StatusRoot.status.Names "Aa0b" "esp/status/Aa0b" :=
    StatusRoot.classify?_eq_some_some_iff.1 (by decide +kernel)
  obtain ⟨_, hnormal, hsame, hstand⟩ := spellings_name_one_device
  obtain ⟨id, hid, hid'⟩ := (hsame _ _).2 hdigits
  have hingest := (hstand _ _ id hid hid').ingest .status _ _ hnames hnames'
  exact ⟨id, hid, hid', (hnormal _ id hid).1, hnames, hnames', hingest ..⟩

end DeviceId
end LockFleet
