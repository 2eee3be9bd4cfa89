import LockFleet.Api.Bodies
import LockFleet.Proofs.Instant.Text
import LockFleet.Proofs.Json.Printing

/-!
This module contains the proof that the bodies of answers survive their text: what is read of the JSON text
of a body is that body.
-/

namespace LockFleet.Api

def ReadsBack {α : Type} (shape : Json.Shape) (toJson : α → Json) (ofJson? : Json → Option α)
    (body read : α) : Prop :=
  ∃ v, Json.readShape shape (Utf8.encode (toJson body).print) = .ok v ∧ ofJson? v = some read

theorem readsBack_of_ofJson? {α : Type} {shape : Json.Shape} {toJson : α → Json}
    {ofJson? : Json → Option α} {body read : α} (hkeeps : shape.Keeps (toJson body))
    (hintegral : (toJson body).isIntegral = true)
    (hdepth : (toJson body).depth ≤ Json.State.maxDepth) (hread : ofJson? (toJson body) = some read) :
    ReadsBack shape toJson ofJson? body read :=
  ⟨toJson body, Json.readShape_print hkeeps hintegral hdepth, hread⟩

theorem instant?_instantJson {t : Instant} (h : t.IsPlain) : instant? (instantJson t) = some t := by
  unfold instant? instantJson
  rw [Json.string?, Option.bind_some, String.toList_ofList, Instant.ofText?_text h]

theorem word?_integer (n : Nat) : Json.word? (.integer n) = some n := by
  change (if 0 ≤ (n : Int) then some (n : Int).toNat else none) = some n
  rw [if_pos (Int.natCast_nonneg n), Int.toNat_natCast]

theorem isIntegral_stringOrNull (text : Option String) : (Json.stringOrNull text).isIntegral = true := by
  cases text <;> rfl

theorem depth_stringOrNull (text : Option String) : (Json.stringOrNull text).depth = 0 := by
  cases text <;> rfl

theorem optional?_stringOrNull {α : Type} {ofName? : String → Option α} {name : α → String}
    (h : ∀ a, ofName? (name a) = some a) (a : Option α) :
    Json.optional? (Json.name? ofName?) (some (.stringOrNull (a.map name))) = some a := by
  cases a with
  | none => rfl
  | some a =>
    change (ofName? (name a)).map some = some (some a)
    rw [h a, Option.map_some]

theorem optional?_of_ne_null {α : Type} {read : Json → Option α} {v : Json} (h : v ≠ .null) :
    Json.optional? read (some v) = (read v).map some := by
  cases v <;> first | rfl | exact absurd rfl h

namespace DeviceStatus

variable {s : DeviceStatus}

theorem keeps_toJson (s : DeviceStatus) : shape.Keeps s.toJson := by
  apply Json.Shape.keeps_plainRecord
  simp [names]

theorem isIntegral_toJson (s : DeviceStatus) : s.toJson.isIntegral = true := by
  have hstate := isIntegral_stringOrNull (s.state.map LifecycleState.label)
  simp [toJson, instantJson, Json.isIntegral, Json.haveIntegral, Json.hasIntegral, hstate]

theorem depth_toJson (s : DeviceStatus) : s.toJson.depth = 1 := by
  have hstate := depth_stringOrNull (s.state.map LifecycleState.label)
  simp [toJson, instantJson, Json.depth, Json.depthMembers, Json.depthMember, hstate]

theorem ofJson?_toJson (h : s.updatedAt.IsPlain) : ofJson? s.toJson = some s := by
  have hfields : Json.fields? names s.toJson = some _ := Json.fields?_object rfl (by decide)
  have hstate := optional?_stringOrNull LifecycleState.ofLabel?_label s.state
  simp [ofJson?, hfields, hstate, instant?_instantJson h, Json.string?]

end DeviceStatus

namespace DeviceList

variable {l : DeviceList}

theorem keeps_toJson (l : DeviceList) : shape.Keeps l.toJson := by
  apply Json.Shape.keeps_object
  rintro m hm
  obtain rfl := List.mem_singleton.1 hm
  refine ⟨.list DeviceStatus.shape, rfl, Json.Shape.keeps_array ?_⟩
  intro v hv
  obtain ⟨s, -, rfl⟩ := List.mem_map.1 hv
  exact s.keeps_toJson

theorem isIntegral_toJson (l : DeviceList) : l.toJson.isIntegral = true := by
  have hitems : Json.areIntegral (l.items.map DeviceStatus.toJson) = true := by
    rw [Json.areIntegral_eq_true_iff, List.forall_mem_map]
    exact fun s _ => s.isIntegral_toJson
  simp [toJson, Json.isIntegral, Json.haveIntegral, Json.hasIntegral, hitems]

theorem depth_toJson_le (l : DeviceList) : l.toJson.depth ≤ 3 := by
  have hitems : Json.depthItems (l.items.map DeviceStatus.toJson) ≤ 1 := by
    rw [Json.depthItems_le_iff, List.forall_mem_map]
    exact fun s _ => Nat.le_of_eq s.depth_toJson
  simp only [toJson, Json.depth, Json.depthMembers, Json.depthMember]
  omega

theorem mapM_toJson {items : List DeviceStatus} (h : ∀ s ∈ items, s.updatedAt.IsPlain) :
    (items.map DeviceStatus.toJson).mapM DeviceStatus.ofJson? = some items := by
  induction items with
  | nil => rfl
  | cons s rest ih =>
    obtain ⟨hs, hrest⟩ := List.forall_mem_cons.1 h
    rw [List.map_cons, List.mapM_cons, DeviceStatus.ofJson?_toJson hs, ih hrest]
    rfl

theorem ofJson?_toJson (h : ∀ s ∈ l.items, s.updatedAt.IsPlain) : ofJson? l.toJson = some l := by
  have hfields : Json.fields? names l.toJson = some _ := Json.fields?_object rfl (by decide)
  simp [ofJson?, hfields, mapM_toJson h]

end DeviceList

namespace Health

variable {h : Health}

theorem keeps_toJson (h : Health) : shape.Keeps h.toJson := by
  apply Json.Shape.keeps_plainRecord
  simp [names]

theorem isIntegral_toJson (huptime : h.uptimeMs ≤ maxWord) (hdevices : h.devices ≤ maxWord) :
    h.toJson.isIntegral = true := by
  simp [toJson, instantJson, Json.isIntegral, Json.haveIntegral, Json.hasIntegral]
  omega

theorem depth_toJson (h : Health) : h.toJson.depth = 1 :=
  rfl

theorem ofJson?_toJson (htimestamp : h.timestamp.IsPlain) : ofJson? h.toJson = some h := by
  have hfields : Json.fields? names h.toJson = some _ := Json.fields?_object rfl (by decide)
  simp [ofJson?, hfields, word?_integer, instant?_instantJson htimestamp, Json.string?]

end Health

namespace CommandAccepted

theorem keeps_toJson (a : CommandAccepted) : shape.Keeps a.toJson := by
  apply Json.Shape.keeps_plainRecord
  simp [names]

theorem depth_toJson (a : CommandAccepted) : a.toJson.depth = 1 :=
  rfl

theorem ofJson?_toJson (a : CommandAccepted) : ofJson? a.toJson = some a := by
  have hfields : Json.fields? names a.toJson = some _ := Json.fields?_object rfl (by decide)
  simp [ofJson?, hfields, Json.string?]

end CommandAccepted

namespace ErrorBody

def normalize (b : ErrorBody) : ErrorBody :=
  { b with details := b.details.map Json.normalize }

theorem normalize_normalize (b : ErrorBody) : b.normalize.normalize = b.normalize := by
  cases hv : b.details <;> simp [normalize, hv, Json.normalize_normalize]

theorem normalize_eq_self {b : ErrorBody} (h : ∀ v ∈ b.details, v.normalize = v) : b.normalize = b := by
  obtain ⟨error, message, details⟩ := b
  cases details with
  | none => rfl
  | some v => rw [normalize, Option.map_some, h v rfl]

structure IsPlainDetails (v : Json) : Prop where
  ne_null : v ≠ .null
  isIntegral : v.isIntegral = true
  depth_le : v.depth ≤ 120

variable {b : ErrorBody}

theorem keeps_toJson (b : ErrorBody) : shape.Keeps b.toJson := by
  apply Json.Shape.keeps_plainRecord
  simp [names]

theorem isIntegral_toJson (h : ∀ v ∈ b.details, IsPlainDetails v) : b.toJson.isIntegral = true := by
  have hdetails : (b.details.getD .null).isIntegral = true := by
    cases hv : b.details with
    | none => rfl
    | some v => exact (h v hv).isIntegral
  simp [toJson, Json.isIntegral, Json.haveIntegral, Json.hasIntegral, hdetails]

theorem depth_toJson_le (h : ∀ v ∈ b.details, IsPlainDetails v) : b.toJson.depth ≤ 121 := by
  have hdetails : (b.details.getD .null).depth ≤ 120 := by
    cases hv : b.details with
    | none => exact Nat.zero_le _
    | some v => exact (h v hv).depth_le
  simp only [toJson, Json.depth, Json.depthMembers, Json.depthMember]
  omega

theorem ofJson?_toJson (h : ∀ v ∈ b.details, IsPlainDetails v) : ofJson? b.toJson = some b.normalize := by
  have hfields : Json.fields? names b.toJson = some _ := Json.fields?_object rfl (by decide)
  have hdetails : Json.optional? (fun v => some v.normalize) (some (b.details.getD .null))
      = some (b.details.map Json.normalize) := by
    cases hv : b.details with
    | none => rfl
    | some v => exact optional?_of_ne_null (h v hv).ne_null
  simp [ofJson?, hfields, hdetails, Json.string?, normalize]

end ErrorBody

theorem survives_wire :
    (∀ l : DeviceList, (∀ s ∈ l.items, s.updatedAt.IsPlain) →
      ReadsBack DeviceList.shape DeviceList.toJson DeviceList.ofJson? l l) ∧
    (∀ s : DeviceStatus, s.updatedAt.IsPlain →
      ReadsBack DeviceStatus.shape DeviceStatus.toJson DeviceStatus.ofJson? s s) ∧
    (∀ h : Health, h.timestamp.IsPlain → h.uptimeMs ≤ maxWord → h.devices ≤ maxWord →
      ReadsBack Health.shape Health.toJson Health.ofJson? h h) ∧
    (∀ a : CommandAccepted,
      ReadsBack CommandAccepted.shape CommandAccepted.toJson CommandAccepted.ofJson? a a) ∧
    (∀ b : ErrorBody, (∀ v ∈ b.details, ErrorBody.IsPlainDetails v) →
      ReadsBack ErrorBody.shape ErrorBody.toJson ErrorBody.ofJson? b b.normalize ∧
      b.normalize.normalize = b.normalize ∧
      ((∀ v ∈ b.details, v.normalize = v) → b.normalize = b)) := by
  refine ⟨?_, ?_, ?_, ?_, ?_⟩
  . intro l h
    exact readsBack_of_ofJson? l.keeps_toJson l.isIntegral_toJson
      (Nat.le_trans l.depth_toJson_le (by decide)) (DeviceList.ofJson?_toJson h)
  . intro s h
    exact readsBack_of_ofJson? s.keeps_toJson s.isIntegral_toJson
      (Nat.le_trans (Nat.le_of_eq s.depth_toJson) (by decide)) (DeviceStatus.ofJson?_toJson h)
  . intro h htimestamp huptime hdevices
    exact readsBack_of_ofJson? h.keeps_toJson (Health.isIntegral_toJson huptime hdevices)
      (Nat.le_trans (Nat.le_of_eq h.depth_toJson) (by decide)) (Health.ofJson?_toJson htimestamp)
  . intro a
    exact readsBack_of_ofJson? a.keeps_toJson rfl (Nat.le_trans (Nat.le_of_eq a.depth_toJson) (by decide))
      a.ofJson?_toJson
  . intro b h
    refine ⟨?_, b.normalize_normalize, ErrorBody.normalize_eq_self⟩
    exact readsBack_of_ofJson? b.keeps_toJson (ErrorBody.isIntegral_toJson h)
      (Nat.le_trans (ErrorBody.depth_toJson_le h) (by decide)) (ErrorBody.ofJson?_toJson h)

theorem survives_wire_awkward :
    let devices : List DeviceStatus :=
      [⟨"AABBCCDDEEFF", "booked", some .booked, "\x00 \"no\" \\ \n", ⟨951868799, 1⟩⟩,
        ⟨"", "\u2028", none, "", ⟨-62167219200, 500000000⟩⟩]
    let last : DeviceStatus := ⟨"AABBCCDDEEFF", "ready", none, "ready", ⟨253402300799, 999999999⟩⟩
    let health : Health := ⟨"ok", maxWord, 0, ⟨-1, 1000⟩⟩
    let accepted : CommandAccepted := ⟨"", "a/b", "/"⟩
    let problem := fun members => (⟨"CONFLICT", "", some (.object members)⟩ : ErrorBody)
    ReadsBack DeviceList.shape DeviceList.toJson DeviceList.ofJson? ⟨devices⟩ ⟨devices⟩ ∧
    ReadsBack DeviceStatus.shape DeviceStatus.toJson DeviceStatus.ofJson? last last ∧
    ReadsBack Health.shape Health.toJson Health.ofJson? health health ∧
    ReadsBack CommandAccepted.shape CommandAccepted.toJson CommandAccepted.ofJson? accepted accepted ∧
    ReadsBack ErrorBody.shape ErrorBody.toJson ErrorBody.ofJson?
      (problem [("b", .object []), ("a", .array [.null, .integer (-1)])])
      (problem [("a", .array [.null, .integer (-1)]), ("b", .object [])]) := by
  intro devices last health accepted problem
  obtain ⟨hlist, hstatus, hhealth, haccepted, herror⟩ := survives_wire
  refine ⟨hlist _ ?_, hstatus _ ?_, hhealth _ ?_ ?_ ?_, haccepted _, (herror _ ?_).1⟩
  . simp only [devices, List.forall_mem_cons]
    exact ⟨⟨by decide, by decide, by decide⟩, ⟨by decide, by decide, by decide⟩, nofun⟩
  . exact ⟨by decide, by decide, by decide⟩
  . exact ⟨by decide, by decide, by decide⟩
  . decide
  . decide
  . rintro v ⟨⟩
    exact ⟨nofun, by decide, by decide⟩

end LockFleet.Api
