import LockFleet.Proofs.Settings.Validation
import LockFleet.Proofs.Text.Utf8
import LockFleet.Proofs.Toml.Document
import LockFleet.Settings.File

/-!
This module contains the proof that settings which are saved and loaded again are the same but for the
password, which is lost. They are checked without it.
-/

namespace LockFleet

namespace Node

theorem ofTomlMembers_eq_map (members : List (String × Toml.Value)) :
    ofTomlMembers members = members.map fun m => (m.1, ofToml m.2) := by
  induction members with
  | nil => rfl
  | cons m members ih =>
    rw [ofTomlMembers, ofTomlMember, ih]
    rfl

theorem port?_toNat (n : UInt16) : port? (integer n.toNat) = some n := by
  have hlt := n.toNat_lt
  unfold port?
  dsimp only
  rw [if_pos (by omega), Int.toNat_natCast, UInt16.ofNat_toNat]

theorem word?_toNat (n : UInt64) : word? (integer n.toNat) = some n := by
  have hlt := n.toNat_lt
  unfold word? maxWord
  dsimp only
  rw [if_pos (by omega), Int.toNat_natCast, UInt64.ofNat_toNat]

def valueOf? (name : String) (lines : List (String × Toml.Plain)) : Option Node :=
  (lines.find? fun line => line.1 == name).map fun line => ofToml line.2.value

theorem fields?_table_map (names : List String) (lines : List (String × Toml.Plain)) :
    (table (lines.map fun line => (line.1, ofToml line.2.value))).fields? names
      = some (names.map fun name => valueOf? name lines) := by
  unfold fields? valueOf?
  dsimp only
  congr 2
  funext name
  rw [List.find?_map, Option.map_map]
  rfl

theorem ofToml_sectionValue (s : String × List (String × Toml.Plain)) :
    ofToml (Toml.sectionValue s).2 = table (s.2.map fun line => (line.1, ofToml line.2.value)) := by
  unfold Toml.sectionValue
  rw [ofToml, ofTomlMembers_eq_map, List.map_map]
  rfl

theorem fields?_ofToml_sectionValue (names : List String) (s : String × List (String × Toml.Plain)) :
    (ofToml (Toml.sectionValue s).2).fields? names = some (names.map fun name => valueOf? name s.2) := by
  rw [ofToml_sectionValue, fields?_table_map]

theorem valueOf?_nil (name : String) : valueOf? name [] = none :=
  rfl

theorem valueOf?_cons (name : String) (line : String × Toml.Plain) (lines : List (String × Toml.Plain)) :
    valueOf? name (line :: lines)
      = if line.1 = name then some (ofToml line.2.value) else valueOf? name lines := by
  unfold valueOf?
  rw [List.find?_cons]
  split
  . next h => rw [if_pos (beq_iff_eq.1 h)]; rfl
  . next h => rw [if_neg (ne_of_beq_false h)]

theorem valueOf?_append (name : String) (before after : List (String × Toml.Plain)) :
    valueOf? name (before ++ after) = (valueOf? name before).or (valueOf? name after) := by
  unfold valueOf?
  rw [List.find?_append, Option.map_or]

theorem valueOf?_optionalLine (name key : String) (value : Option String) :
    valueOf? name (Settings.optionalLine key value) = if key = name then value.map text else none := by
  cases value with
  | none => simp [Settings.optionalLine, valueOf?_nil]
  | some s =>
    unfold Settings.optionalLine
    dsimp only
    rw [valueOf?_cons, valueOf?_nil]
    rfl

theorem orDefault_some {α : Type} (read : Node → Option α) (default : α) (n : Node) :
    orDefault read default (some n) = read n :=
  rfl

theorem orDefault_optionalText?_map (value : Option String) :
    orDefault optionalText? none (value.map text) = some value := by
  cases value <;> rfl

end Node

open Node in
theorem ServerSettings.ofNode?_eq_some {n host port : Node} {s : ServerSettings}
    (h : n.fields? ["host", "port"] = some [some host, some port]) (hhost : host.text? = some s.host)
    (hport : port.port? = some s.port) : ofNode? n = some s := by
  unfold ofNode?
  rw [h]
  simp [orDefault_some, hhost, hport]

open Node in
theorem LoggingSettings.ofNode?_eq_some {n production level : Node} {s : LoggingSettings}
    (h : n.fields? ["production", "level"] = some [some production, some level])
    (hproduction : production.flag? = some s.production) (hlevel : level.text? = some s.level) :
    ofNode? n = some s := by
  unfold ofNode?
  rw [h]
  simp [orDefault_some, hproduction, hlevel]

open Node in
theorem BrokerSettings.ofNode?_eq_some {n enabled url keepAlive : Node} {s : BrokerSettings}
    (h : n.fields? names = some [some enabled, some url, s.username.map text, s.password.map text,
      s.clientId.map text, some keepAlive, s.deviceAddress.map text])
    (henabled : enabled.flag? = some s.enabled) (hurl : url.text? = some s.url)
    (hkeepAlive : keepAlive.word? = some s.keepAliveSeconds) : ofNode? n = some s := by
  unfold ofNode?
  rw [h]
  simp [orDefault_some, orDefault_optionalText?_map, henabled, hurl, hkeepAlive]

open Node in
theorem Settings.ofNode?_eq_some {n server logging broker : Node} {s : Settings}
    (h : n.fields? ["server", "logging", "mqtt"] = some [some server, some logging, some broker])
    (hserver : ServerSettings.ofNode? server = some s.server)
    (hlogging : LoggingSettings.ofNode? logging = some s.logging)
    (hbroker : BrokerSettings.ofNode? broker = some s.broker) : ofNode? n = some s := by
  unfold ofNode?
  rw [h]
  simp [orDefault_some, hserver, hlogging, hbroker]

namespace Settings

def withoutPassword (s : Settings) : Settings :=
  { s with broker := { s.broker with password := none } }

variable (s : Settings)

theorem ofNode?_serverLines (s : ServerSettings) :
    ServerSettings.ofNode? (Node.ofToml (Toml.sectionValue ("server", serverLines s)).2) = some s := by
  have hfields : (Node.ofToml (Toml.sectionValue ("server", serverLines s)).2).fields? ["host", "port"]
      = some [some (.text s.host), some (.integer s.port.toNat)] := by
    rw [Node.fields?_ofToml_sectionValue]
    simp [serverLines, Node.valueOf?_cons, Node.ofToml, Toml.Plain.value]
  exact ServerSettings.ofNode?_eq_some hfields rfl (Node.port?_toNat s.port)

theorem ofNode?_loggingLines (s : LoggingSettings) :
    LoggingSettings.ofNode? (Node.ofToml (Toml.sectionValue ("logging", loggingLines s)).2) = some s := by
  have hfields : (Node.ofToml (Toml.sectionValue ("logging", loggingLines s)).2).fields?
      ["production", "level"] = some [some (.flag s.production), some (.text s.level)] := by
    rw [Node.fields?_ofToml_sectionValue]
    simp [loggingLines, Node.valueOf?_cons, Node.ofToml, Toml.Plain.value]
  exact LoggingSettings.ofNode?_eq_some hfields rfl rfl

theorem ofNode?_brokerLines (s : BrokerSettings) :
    BrokerSettings.ofNode? (Node.ofToml (Toml.sectionValue ("mqtt", brokerLines s)).2)
      = some { s with password := none } := by
  have hfields : (Node.ofToml (Toml.sectionValue ("mqtt", brokerLines s)).2).fields?
      BrokerSettings.names = some [some (.flag s.enabled), some (.text s.url), s.username.map Node.text,
        none, s.clientId.map Node.text, some (.integer s.keepAliveSeconds.toNat),
        s.deviceAddress.map Node.text] := by
    rw [Node.fields?_ofToml_sectionValue]
    simp [brokerLines, BrokerSettings.names, Node.valueOf?_append, Node.valueOf?_optionalLine,
      Node.valueOf?_cons, Node.ofToml, Toml.Plain.value]
  exact BrokerSettings.ofNode?_eq_some hfields rfl rfl (Node.word?_toNat s.keepAliveSeconds)

theorem ofNode?_sections :
    ofNode? (.table (Node.ofTomlMembers (s.sections.map Toml.sectionValue)))
      = some s.withoutPassword := by
  refine ofNode?_eq_some ?_ (ofNode?_serverLines s.server)
    (ofNode?_loggingLines s.logging) (ofNode?_brokerLines s.broker)
  rw [Node.ofTomlMembers_eq_map]
  simp [sections, Node.fields?, Toml.sectionValue]

theorem sublist_keys_optionalLine (name : String) (value : Option String) :
    ((optionalLine name value).map Prod.fst).Sublist [name] := by
  cases value with
  | none => exact List.nil_sublist _
  | some s => exact .refl _

def brokerKeys : List String :=
  ["enabled", "broker_url", "username", "client_id", "keep_alive_secs", "device_mac"]

theorem sublist_keys_brokerLines (s : BrokerSettings) :
    ((brokerLines s).map Prod.fst).Sublist brokerKeys := by
  have husername := sublist_keys_optionalLine "username" s.username
  have hclientId := sublist_keys_optionalLine "client_id" s.clientId
  have hdeviceAddress := sublist_keys_optionalLine "device_mac" s.deviceAddress
  unfold brokerLines
  simp only [List.map_append]
  exact ((((List.Sublist.refl _).append husername).append hclientId).append (.refl _)).append
    hdeviceAddress

theorem isWritable_of_mem_optionalLine {name : String} {value : Option String} :
    ∀ line ∈ optionalLine name value, line.2.IsWritable := by
  cases value with
  | none => simp [optionalLine]
  | some s => simp [optionalLine, Toml.Plain.IsWritable]

theorem isWritable_of_mem_brokerLines {s : BrokerSettings} (h : s.keepAliveSeconds.toNat ≤ maxSigned) :
    ∀ line ∈ brokerLines s, line.2.IsWritable := by
  unfold brokerLines
  simp only [List.forall_mem_append]
  refine ⟨⟨⟨⟨?_, isWritable_of_mem_optionalLine⟩, isWritable_of_mem_optionalLine⟩, ?_⟩,
    isWritable_of_mem_optionalLine⟩
  . simp [Toml.Plain.IsWritable]
  . rw [List.forall_mem_singleton]
    exact Toml.isWritable_integer_natCast h

theorem keys_of_mem_sections : ∀ t ∈ s.sections,
    (t.2.map Prod.fst).Nodup ∧ ∀ line ∈ t.2, Toml.IsKey line.1 := by
  have hsublist : ∀ {lines : List (String × Toml.Plain)} {keys : List String},
      (lines.map Prod.fst).Sublist keys → keys.Nodup → (∀ key ∈ keys, Toml.IsKey key) →
      (lines.map Prod.fst).Nodup ∧ ∀ line ∈ lines, Toml.IsKey line.1 := by
    intro lines keys hkeys hnodup hall
    refine ⟨hkeys.nodup hnodup, ?_⟩
    intro line hline
    exact hall _ (hkeys.subset (List.mem_map_of_mem hline))
  intro t ht
  simp only [sections, List.mem_cons, List.not_mem_nil, or_false] at ht
  rcases ht with rfl | rfl | rfl
  . exact hsublist (.refl ["host", "port"]) (by decide) (by decide +kernel)
  . exact hsublist (.refl ["production", "level"]) (by decide) (by decide +kernel)
  . exact hsublist (sublist_keys_brokerLines s.broker) (by decide) (by decide +kernel)

theorem isWritable_of_mem_serverLines (s : ServerSettings) :
    ∀ line ∈ serverLines s, line.2.IsWritable := by
  have hport : s.port.toNat ≤ maxSigned := by
    have hlt := s.port.toNat_lt
    unfold maxSigned
    omega
  unfold serverLines
  rw [List.forall_mem_cons, List.forall_mem_singleton]
  exact ⟨trivial, Toml.isWritable_integer_natCast hport⟩

theorem isSection_of_mem_sections (h : s.broker.keepAliveSeconds.toNat ≤ maxSigned) :
    ∀ t ∈ s.sections, Toml.IsSection t := by
  have hserver : Toml.IsKey "server" := by decide +kernel
  have hlogging : Toml.IsKey "logging" := by decide +kernel
  have hbroker : Toml.IsKey "mqtt" := by decide +kernel
  intro t ht
  have hkeys := (s.keys_of_mem_sections t ht).2
  simp only [sections, List.mem_cons, List.not_mem_nil, or_false] at ht
  rcases ht with rfl | rfl | rfl
  . exact ⟨hserver, hkeys, isWritable_of_mem_serverLines s.server⟩
  . refine ⟨hlogging, hkeys, ?_⟩
    simp [loggingLines, Toml.Plain.IsWritable]
  . exact ⟨hbroker, hkeys, isWritable_of_mem_brokerLines h⟩

theorem ofText?_printSections (h : s.broker.keepAliveSeconds.toNat ≤ maxSigned) :
    ofText? (Toml.printSections s.sections) = some s.withoutPassword := by
  have hkeys := fun t ht => (s.keys_of_mem_sections t ht).1
  have hnames : (s.sections.map Prod.fst).Nodup := by
    change ["server", "logging", "mqtt"].Nodup
    decide
  unfold ofText?
  rw [Toml.read_printSections (s.isSection_of_mem_sections h) hnames hkeys, Option.bind_some]
  exact s.ofNode?_sections

variable {s} {entry : Entry} {target : Target}

theorem save_eq_ok_iff :
    s.save target = .ok entry ↔ s.broker.keepAliveSeconds.toNat ≤ maxSigned ∧
      (target ≠ .underFile ∧ target ≠ .entry .directory) ∧
      entry = .file (Utf8.encode (Toml.printSections s.sections)) := by
  unfold save text?
  split
  . simp
  . next e =>
    by_cases h : s.broker.keepAliveSeconds.toNat ≤ maxSigned
    . rw [if_pos h]
      cases e <;> simp [h, eq_comm]
    . rw [if_neg h]
      simp [h]

theorem load_of_save (path : String) (h : s.save target = .ok entry) :
    load path entry = s.withoutPassword.validate.map fun _ => s.withoutPassword := by
  obtain ⟨hkeepAlive, -, rfl⟩ := save_eq_ok_iff.1 h
  unfold load
  dsimp only
  rw [Utf8.decode_encode]
  dsimp only
  rw [s.ofText?_printSections hkeepAlive]
  dsimp only
  cases s.withoutPassword.validate <;> rfl

theorem save_and_load (h : s.broker.keepAliveSeconds.toNat ≤ maxSigned) (target : Target)
    (path : String) :
    ((∃ entry, s.save target = .ok entry) ↔ target ≠ .underFile ∧ target ≠ .entry .directory) ∧
    ∀ entry, s.save target = .ok entry →
      (s.withoutPassword.validate = .ok () → load path entry = .ok s.withoutPassword) ∧
      ∀ e, s.withoutPassword.validate = .error e → load path entry = .error e := by
  constructor
  . simp [save_eq_ok_iff, h]
  . intro entry hsave
    rw [load_of_save path hsave]
    constructor
    . intro hvalid
      rw [hvalid]
      rfl
    . intro e herror
      rw [herror]
      rfl

def quoted (address : String) : Settings where
  server := ⟨"a\"b\\c\r\n\t\x00\x7f\'\'\'", 8080⟩
  logging := ⟨true, "Debug"⟩
  broker := {
    enabled := true
    url := "mqtt://h"
    username := none
    password := some "secret"
    clientId := some "\n\"\"\"\"\\ = \'\'"
    keepAliveSeconds := 30
    deviceAddress := some address }

theorem save_and_load_quoted :
    (∃ entry, (quoted "A1\n").save (.entry .missing) = .ok entry ∧
      load "config.toml" entry = .ok (quoted "A1\n").withoutPassword) ∧
    ∃ entry, (quoted "\r").save (.entry (.file [])) = .ok entry ∧
      load "config.toml" entry
        = .error (.invalidField ⟨"mqtt.device_mac", "\'\r\' contains no hex digits"⟩) := by
  have hvalid : (quoted "A1\n").withoutPassword.validate = .ok () :=
    validate_eq_ok_iff.2 (errors_eq_nil_iff.1 (by decide +kernel))
  have herrors : (quoted "\r").withoutPassword.errors
      = [⟨"mqtt.device_mac", "\'\r\' contains no hex digits"⟩] := by
    decide +kernel
  have herror : (quoted "\r").withoutPassword.validate
      = .error (.invalidField ⟨"mqtt.device_mac", "\'\r\' contains no hex digits"⟩) := by
    unfold validate
    rw [herrors]
  constructor
  . obtain ⟨hsaves, hloads⟩ :=
      save_and_load (s := quoted "A1\n") (by decide) (.entry .missing) "config.toml"
    obtain ⟨entry, hentry⟩ := hsaves.2 (by decide)
    exact ⟨entry, hentry, (hloads entry hentry).1 hvalid⟩
  . obtain ⟨hsaves, hloads⟩ :=
      save_and_load (s := quoted "\r") (by decide) (.entry (.file [])) "config.toml"
    obtain ⟨entry, hentry⟩ := hsaves.2 (by decide)
    exact ⟨entry, hentry, (hloads entry hentry).2 _ herror⟩

end Settings
end LockFleet
