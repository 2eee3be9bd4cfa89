import LockFleet.Proofs.Broker.Url
import LockFleet.Proofs.Device
import LockFleet.Proofs.Text.Blank
import LockFleet.Settings.Basic

/-!
This module contains the proof that the validation reports every setting that is wrong, once and in a fixed
order, and nothing else.
-/

namespace LockFleet

inductive Setting where
  | host
  | port
  | logLevel
  | brokerUrl
  | keepAlive
  | password
  | deviceAddress
  deriving DecidableEq, Repr

namespace Setting

def all : List Setting :=
  [host, port, logLevel, brokerUrl, keepAlive, password, deviceAddress]

theorem mem_all (f : Setting) : f ∈ all := by
  cases f <;> decide

def path : Setting → String
  | host => "server.host"
  | port => "server.port"
  | logLevel => "logging.level"
  | brokerUrl => "mqtt.broker_url"
  | keepAlive => "mqtt.keep_alive_secs"
  | password => "mqtt.password"
  | deviceAddress => "mqtt.device_mac"

def SameButCase (a b : String) : Prop :=
  a.toList.map Char.toLower = b.toList.map Char.toLower

def IsGood (s : Settings) : Setting → Prop
  | host => ¬Text.AreBlank s.server.host.toList
  | port => s.server.port ≠ 0
  | logLevel =>
    ∃ name ∈ ["trace", "debug", "info", "warn", "error"], SameButCase s.logging.level name
  | brokerUrl => ∃ f : Broker.UrlForm, f.text = s.broker.url.toList
  | keepAlive => 1 ≤ s.broker.keepAliveSeconds.toNat ∧ s.broker.keepAliveSeconds.toNat ≤ 65535
  | password => s.broker.password.isSome = true → s.broker.username.isSome = true
  | deviceAddress =>
    ∀ address ∈ s.broker.deviceAddress, ∃ c ∈ address.toList, Text.isHexDigit c = true

def message (s : Settings) : Setting → String
  | host => "must not be empty"
  | port => "must be greater than 0"
  | logLevel => "must be one of trace, debug, info, warn, error"
  | brokerUrl => "'" ++ s.broker.url ++ "' is not an mqtt:// or mqtts:// URL"
  | keepAlive => "must be between 1 and 65535"
  | password => "requires mqtt.username"
  | deviceAddress => "'" ++ s.broker.deviceAddress.getD "" ++ "' contains no hex digits"

def report (s : Settings) (f : Setting) : FieldError :=
  ⟨f.path, f.message s⟩

def isWrong (s : Settings) : Setting → Bool
  | host => (Text.trim s.server.host.toList).isEmpty
  | port => s.server.port == 0
  | logLevel => !isLogLevel s.logging.level
  | brokerUrl => !Broker.isValidUrl s.broker.url
  | keepAlive =>
    s.broker.keepAliveSeconds == 0 || Settings.maxKeepAlive < s.broker.keepAliveSeconds
  | password => s.broker.password.isSome && s.broker.username.isNone
  | deviceAddress => s.broker.deviceAddress.any fun address => (DeviceId.ofText? address).isNone

variable {s : Settings}

theorem isLogLevel_iff {level : String} :
    isLogLevel level = true ↔
      ∃ name ∈ ["trace", "debug", "info", "warn", "error"], SameButCase level name := by
  have hlower : ∀ name ∈ logLevels, name.toList.map Char.toLower = name.toList := by decide
  unfold isLogLevel
  rw [List.contains_iff_mem]
  constructor
  . intro h
    refine ⟨_, h, ?_⟩
    unfold SameButCase
    rw [hlower _ h, String.toList_ofList]
  . rintro ⟨name, hname, hsame⟩
    unfold SameButCase at hsame
    rw [hsame, hlower name hname, String.ofList_toList]
    exact hname

theorem isWrong_keepAlive_iff {seconds : UInt64} :
    (seconds == 0 || decide (Settings.maxKeepAlive < seconds)) = true ↔
      ¬(1 ≤ seconds.toNat ∧ seconds.toNat ≤ 65535) := by
  have hmax : Settings.maxKeepAlive.toNat = 65535 := rfl
  have hzero : seconds = 0 ↔ seconds.toNat = 0 := UInt64.toNat_inj.symm
  rw [Bool.or_eq_true, beq_iff_eq, decide_eq_true_eq, hzero, UInt64.lt_iff_toNat_lt, hmax]
  omega

theorem isWrong_deviceAddress_iff {given : Option String} :
    (given.any fun address => (DeviceId.ofText? address).isNone) = true ↔
      ¬∀ address ∈ given, ∃ c ∈ address.toList, Text.isHexDigit c = true := by
  cases given with
  | none => simp
  | some address => simp [DeviceId.ofText?_eq_none_iff]

theorem isWrong_iff {f : Setting} : f.isWrong s = true ↔ ¬f.IsGood s := by
  unfold isWrong IsGood
  cases f with
  | host => rw [List.isEmpty_iff, Text.trim_eq_nil_iff, Classical.not_not]
  | port => rw [beq_iff_eq, ne_eq, Classical.not_not]
  | logLevel => rw [← isLogLevel_iff, Bool.not_eq_true', Bool.not_eq_true]
  | brokerUrl => rw [← Broker.isValidUrl_iff, Bool.not_eq_true', Bool.not_eq_true]
  | keepAlive => exact isWrong_keepAlive_iff
  | password => simp [Option.isNone_iff_eq_none]
  | deviceAddress => exact isWrong_deviceAddress_iff

instance (s : Settings) (f : Setting) : Decidable (f.IsGood s) :=
  decidable_of_iff (¬f.isWrong s = true) (by rw [isWrong_iff, Classical.not_not])

theorem report_filter_cons (s : Settings) (f : Setting) (rest : List Setting) :
    ((f :: rest).filter (isWrong s)).map (report s)
      = Settings.errorIf (f.isWrong s) f.path (f.message s)
        ++ (rest.filter (isWrong s)).map (report s) := by
  unfold Settings.errorIf
  cases h : f.isWrong s <;> simp [h, report]

end Setting

namespace Settings

def violated (s : Settings) : List Setting :=
  Setting.all.filter fun f => ¬f.IsGood s

variable {s : Settings}

theorem mem_violated_iff {f : Setting} : f ∈ s.violated ↔ ¬f.IsGood s := by
  unfold violated
  rw [List.mem_filter, decide_eq_true_eq]
  exact and_iff_right f.mem_all

theorem violated_eq_nil_iff : s.violated = [] ↔ ∀ f : Setting, f.IsGood s := by
  rw [List.eq_nil_iff_forall_not_mem]
  apply forall_congr'
  intro f
  rw [mem_violated_iff, Classical.not_not]

theorem nodup_path_violated (s : Settings) : (s.violated.map Setting.path).Nodup := by
  have hall : (Setting.all.map Setting.path).Nodup := by decide
  exact hall.sublist (List.filter_sublist.map Setting.path)

theorem errors_eq (s : Settings) : s.errors = s.violated.map (Setting.report s) := by
  have hwrong : s.violated = Setting.all.filter (Setting.isWrong s) := by
    apply List.filter_congr
    intro f _
    rw [Bool.eq_iff_iff, decide_eq_true_eq, Setting.isWrong_iff]
  rw [hwrong]
  unfold errors Setting.all
  simp only [Setting.report_filter_cons, List.filter_nil, List.map_nil, List.append_nil,
    List.append_assoc]
  unfold Setting.isWrong Setting.path Setting.message
  cases s.broker.deviceAddress <;> rfl

theorem validate_eq (s : Settings) :
    s.validate = match s.violated with
      | [] => .ok ()
      | [f] => .error (.invalidField (f.report s))
      | violated => .error (.invalidFields (violated.map (Setting.report s))) := by
  unfold validate
  rw [errors_eq]
  rcases s.violated with _ | ⟨f, _ | ⟨f', rest⟩⟩ <;> rfl

def violationText (s : Settings) : String :=
  "; ".intercalate (s.violated.map fun f => f.path ++ ": " ++ f.message s)

theorem toFailure_of_validate {e : SettingsError} (h : s.validate = .error e) (wording : String) :
    e.toFailure wording = .settingsInvalid s.violationText := by
  rw [validate_eq] at h
  unfold violationText
  split at h
  . cases h
  . next f hone =>
    cases h
    rw [hone, List.map_singleton, String.intercalate_singleton]
    rfl
  . cases h
    unfold SettingsError.toFailure
    dsimp only
    rw [List.map_map]
    rfl

structure IsExact (s : Settings) (verdict : Except SettingsError Unit) : Prop where
  ok_iff : verdict = .ok () ↔ ∀ f : Setting, f.IsGood s
  single : ∀ f, s.violated = [f] → verdict = .error (.invalidField (f.report s))
  several : 2 ≤ s.violated.length →
    verdict = .error (.invalidFields (s.violated.map (Setting.report s)))
  unified : ∀ e, verdict = .error e → ∀ wording,
    e.toFailure wording = .settingsInvalid s.violationText ∧
      (e.toFailure wording).text = "Configuration validation failed: " ++ s.violationText

theorem isExact_validate (s : Settings) : s.IsExact s.validate := by
  constructor
  . rw [← violated_eq_nil_iff, validate_eq]
    split
    . next hnone => simp [hnone]
    . next f hone => simp [hone]
    . next hnone _ => exact iff_of_false (fun hok => by cases hok) hnone
  . intro f hone
    rw [validate_eq, hone]
  . intro hseveral
    rw [validate_eq]
    split
    . next hnone => simp [hnone] at hseveral
    . next f hone => simp [hone] at hseveral
    . rfl
  . intro e h wording
    rw [toFailure_of_validate h]
    exact ⟨rfl, rfl⟩

theorem violations_reported (s : Settings) :
    (∀ f, f ∈ s.violated ↔ ¬f.IsGood s) ∧ s.violated.Sublist Setting.all ∧
      (s.violated.map Setting.path).Nodup ∧ s.IsExact s.validate :=
  ⟨fun _ => mem_violated_iff, List.filter_sublist, nodup_path_violated s, isExact_validate s⟩

def careless : Settings where
  server := ⟨"\u3000", 1⟩
  logging := ⟨true, "WaRN"⟩
  broker := { BrokerSettings.default with
    keepAliveSeconds := 65536, username := some "u", password := some "", deviceAddress := some "zz" }

theorem violations_reported_careless :
    careless.violated = [.host, .keepAlive, .deviceAddress] ∧
    careless.validate = .error (.invalidFields
      (careless.violated.map (Setting.report careless))) ∧
    2 ≤ careless.violated.length ∧
    careless.violationText = "server.host: must not be empty; " ++
      "mqtt.keep_alive_secs: must be between 1 and 65535; mqtt.device_mac: 'zz' contains no hex digits" := by
  have hviolated : careless.violated = [.host, .keepAlive, .deviceAddress] := by decide +kernel
  have hseveral : 2 ≤ careless.violated.length := by
    rw [hviolated]
    decide
  exact ⟨hviolated, (violations_reported careless).2.2.2.several hseveral, hseveral, by decide +kernel⟩

end Settings
end LockFleet
