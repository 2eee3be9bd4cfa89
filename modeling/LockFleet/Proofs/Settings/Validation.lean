import LockFleet.Proofs.Settings.Violations

/-!
This module contains what it means for settings to pass the validation.
-/

namespace LockFleet.Settings

structure IsValid (s : Settings) : Prop where
  host : Text.trim s.server.host.toList ≠ []
  port : s.server.port ≠ 0
  level : isLogLevel s.logging.level = true
  url : Broker.isValidUrl s.broker.url = true
  keepAlive : s.broker.keepAliveSeconds ≠ 0 ∧ s.broker.keepAliveSeconds ≤ maxKeepAlive
  password : s.broker.password.isSome = true → s.broker.username.isSome = true
  deviceAddress : ∀ address ∈ s.broker.deviceAddress, (DeviceId.ofText? address).isSome = true

theorem isValid_iff {s : Settings} : s.IsValid ↔ ∀ f : Setting, f.isWrong s = false := by
  constructor
  . intro h f
    unfold Setting.isWrong
    cases f with
    | host => simpa using h.host
    | port => simpa using h.port
    | logLevel => simpa using h.level
    | brokerUrl => simpa using h.url
    | keepAlive => simpa using h.keepAlive
    | password => simpa [Option.isSome_iff_ne_none] using h.password
    | deviceAddress =>
      cases hgiven : s.broker.deviceAddress with
      | none => rfl
      | some address => simpa [Option.isSome_iff_ne_none] using h.deviceAddress address hgiven
  . intro h
    constructor
    . simpa [Setting.isWrong] using h .host
    . simpa [Setting.isWrong] using h .port
    . simpa [Setting.isWrong] using h .logLevel
    . simpa [Setting.isWrong] using h .brokerUrl
    . simpa [Setting.isWrong] using h .keepAlive
    . simpa [Setting.isWrong, Option.isSome_iff_ne_none] using h .password
    . intro address hgiven
      have haddress := h .deviceAddress
      unfold Setting.isWrong at haddress
      rw [Option.mem_def.1 hgiven] at haddress
      simpa [Option.isSome_iff_ne_none] using haddress

theorem isValid_iff_forall_isGood {s : Settings} : s.IsValid ↔ ∀ f : Setting, f.IsGood s := by
  rw [isValid_iff]
  apply forall_congr'
  intro f
  rw [← Bool.not_eq_true, Setting.isWrong_iff, Classical.not_not]

theorem errors_eq_nil_iff {s : Settings} : s.errors = [] ↔ s.IsValid := by
  rw [errors_eq, List.map_eq_nil_iff, violated_eq_nil_iff, isValid_iff_forall_isGood]

theorem validate_eq_ok_iff {s : Settings} : s.validate = .ok () ↔ s.IsValid := by
  rw [(isExact_validate s).ok_iff, isValid_iff_forall_isGood]

end LockFleet.Settings
