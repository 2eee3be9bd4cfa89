import LockFleet.Broker.Client
import LockFleet.Proofs.Broker.Url
import LockFleet.Proofs.Settings.Validation
import LockFleet.Settings.File

/-!
This module contains what the service can rely on once its settings are loaded. They are valid, and a
device for bare topics is there if its address is given. But the URL of the broker need not name an
address, since the validation does not look at the value of a port.
-/

namespace LockFleet

theorem BrokerSettings.isSome_fallbackDevice {s : BrokerSettings}
    (h : ∀ address ∈ s.deviceAddress, (DeviceId.ofText? address).isSome = true) :
    s.fallbackDevice.isSome = s.deviceAddress.isSome := by
  unfold fallbackDevice
  cases hgiven : s.deviceAddress with
  | none => rfl
  | some address => exact h address hgiven

theorem Broker.ClientOptions.exists_ofSettings_eq_ok_iff (s : BrokerSettings) :
    (∃ o, ofSettings s = .ok o) ↔ ∃ a, Address.ofUrl s.url = .ok a := by
  unfold ofSettings
  cases Address.ofUrl s.url <;> simp

inductive Loader where
  | strict (path : String)
  | lenient (path : String)
  | configured (environment : Option String)
  deriving DecidableEq

def Loader.load : Loader → Entry → Except SettingsError Settings
  | strict path, entry => Settings.load path entry
  | lenient path, entry => Settings.loadOrDefault path entry
  | configured environment, entry => Settings.loadOrDefault (Settings.pathOr environment) entry

namespace Settings

theorem isValid_of_load {path : String} {entry : Entry} {s : Settings}
    (h : Settings.load path entry = .ok s) : s.IsValid := by
  unfold load at h
  split at h
  . cases h
  . cases h
  . split at h
    . cases h
    . split at h
      . cases h
      . split at h
        . next hvalid =>
          cases h
          exact validate_eq_ok_iff.1 hvalid
        . cases h

theorem isValid_default : default.IsValid :=
  errors_eq_nil_iff.1 (by decide +kernel)

theorem isValid_of_loadOrDefault {path : String} {entry : Entry} {s : Settings}
    (h : loadOrDefault path entry = .ok s) : s.IsValid := by
  unfold loadOrDefault at h
  split at h
  . cases h
    exact isValid_default
  . exact isValid_of_load h

end Settings

theorem Loader.isValid_of_load {l : Loader} {entry : Entry} {s : Settings}
    (h : l.load entry = .ok s) : s.IsValid := by
  cases l with
  | strict path => exact Settings.isValid_of_load h
  | lenient path => exact Settings.isValid_of_loadOrDefault h
  | configured environment => exact Settings.isValid_of_loadOrDefault h

namespace Settings

/--
What the service needs of its settings: they pass the validation, the URL of the broker names an address
with a host, so there are options for the client, and there is a device for bare topics just if its
address is given.
-/
structure IsUsable (s : Settings) : Prop where
  validate : s.validate = .ok ()
  namesAddress : Broker.NamesAddress s.broker.url
  options : ∃ o, Broker.ClientOptions.ofSettings s.broker = .ok o
  fallback : s.broker.fallbackDevice.isSome = s.broker.deviceAddress.isSome

theorem IsValid.isUsable_iff {s : Settings} (h : s.IsValid) :
    s.IsUsable ↔ Broker.NamesAddress s.broker.url := by
  constructor
  . intro husable
    exact husable.namesAddress
  . intro hnames
    refine ⟨validate_eq_ok_iff.2 h, hnames, ?_, BrokerSettings.isSome_fallbackDevice h.deviceAddress⟩
    obtain ⟨a, ha, -⟩ := hnames
    exact (Broker.ClientOptions.exists_ofSettings_eq_ok_iff s.broker).2 ⟨a, ha⟩

theorem isUsable_iff_of_load {l : Loader} {entry : Entry} {s : Settings} (h : l.load entry = .ok s) :
    (s.validate = .ok () ∧ s.broker.fallbackDevice.isSome = s.broker.deviceAddress.isSome ∧
      (s.IsUsable ↔ ∃ f : Broker.UrlForm, f.text = s.broker.url.toList ∧ f.PortFits)) ∧
    ∀ url, Broker.isValidUrl url = true →
      (Broker.NamesAddress url ↔ ∃ f : Broker.UrlForm, f.text = url.toList ∧ f.PortFits) := by
  have hvalid := Loader.isValid_of_load h
  constructor
  . refine ⟨validate_eq_ok_iff.2 hvalid, BrokerSettings.isSome_fallbackDevice hvalid.deviceAddress, ?_⟩
    rw [hvalid.isUsable_iff, Broker.namesAddress_iff_of_isValidUrl hvalid.url]
  . intro url hurl
    exact Broker.namesAddress_iff_of_isValidUrl hurl

def fileWithUrl (url : String) : Entry :=
  .file (Utf8.encode ("[mqtt]\nbroker_url = \"" ++ url ++ "\"\n").toList)

def withUrl (url : String) : Settings :=
  { default with broker := { BrokerSettings.default with url := url } }

theorem eq_ok_of_toOption_eq_some {result : Except SettingsError Settings} {s : Settings}
    (h : result.toOption = some s) : result = .ok s := by
  cases result with
  | error e => cases h
  | ok s' =>
    cases h
    rfl

def formWithPort (digits : List Char) (h : Broker.IsPort digits) : Broker.UrlForm where
  scheme := .mqtt
  host := ['h']
  host_ne_nil := by decide
  all_isHostChar := by decide
  port := some digits
  isPort_of_mem := by
    rintro _ ⟨⟩
    exact h
  slash := false

theorem isUsable_port_in_range :
    (Loader.strict "config.toml").load (fileWithUrl "mqtt://h:8883")
        = .ok (withUrl "mqtt://h:8883") ∧
      ((withUrl "mqtt://h:8883").IsUsable ↔
        ∃ f : Broker.UrlForm, f.text = (withUrl "mqtt://h:8883").broker.url.toList ∧ f.PortFits) ∧
      (withUrl "mqtt://h:8883").IsUsable := by
  have hload : (Loader.strict "config.toml").load (fileWithUrl "mqtt://h:8883")
      = .ok (withUrl "mqtt://h:8883") := eq_ok_of_toOption_eq_some (by decide +kernel)
  have husable := (isUsable_iff_of_load hload).1.2.2
  refine ⟨hload, husable, husable.2 ?_⟩
  refine ⟨formWithPort "8883".toList (by decide), by decide +kernel, ?_⟩
  rintro _ ⟨⟩
  exact ⟨by decide, by decide⟩

theorem not_isUsable_port_out_of_range :
    (Loader.strict "config.toml").load (fileWithUrl "mqtt://h:99999")
        = .ok (withUrl "mqtt://h:99999") ∧
      Broker.isValidUrl "mqtt://h:99999" = true ∧ ¬Broker.NamesAddress "mqtt://h:99999" ∧
      ¬(withUrl "mqtt://h:99999").IsUsable := by
  have hnames : ¬Broker.NamesAddress "mqtt://h:99999" := by
    rw [(formWithPort "99999".toList (by decide)).namesAddress_iff (by decide +kernel)]
    intro hfits
    exact absurd (hfits _ rfl).2 (by decide)
  refine ⟨eq_ok_of_toOption_eq_some (by decide +kernel), by decide +kernel, hnames, ?_⟩
  intro husable
  exact hnames husable.namesAddress

end Settings
end LockFleet
