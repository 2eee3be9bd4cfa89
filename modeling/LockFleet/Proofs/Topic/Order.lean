import LockFleet.Proofs.Topic.Classification

/-!
This module contains the proof that topics are ordered by what lies within what, and that an address leads
further down in this order. Topics below two bases that lie apart lie apart as well.
-/

namespace LockFleet.Topic

variable {topic base base' raw : String}

theorem isWithin_refl (topic : String) : isWithin topic topic = true :=
  isWithin_iff.2 (Or.inl rfl)

theorem isWithin_antisymm (h : isWithin topic base = true) (h' : isWithin base topic = true) :
    topic = base := by
  rcases isWithin_iff.1 h with heq | ⟨rest, hrest⟩
  . exact String.toList_injective heq
  . rcases isWithin_iff.1 h' with heq | ⟨rest', hrest'⟩
    . exact (String.toList_injective heq).symm
    . -- Of two texts that are not equal, each would be longer than the other one.
      have hlength := congrArg List.length hrest
      have hlength' := congrArg List.length hrest'
      rw [List.length_append, List.length_cons] at hlength hlength'
      omega

theorem isWithin_or_isWithin (h : isWithin topic base = true) (h' : isWithin topic base' = true) :
    isWithin base base' = true ∨ isWithin base' base = true := by
  rw [isWithin_iff_isPrefix] at h h'
  rw [isWithin_iff_isPrefix, isWithin_iff_isPrefix]
  exact (List.prefix_or_prefix_of_prefix h h').symm

theorem ofAddress_ne_base {id : DeviceId} (hbase : base.toList.getLast? ≠ some '/')
    (h : DeviceId.ofText? raw = some id) : ofAddress base (some raw) ≠ base := by
  rw [ofAddress_eq_of_ofText? base h]
  intro heq
  have hchars := congrArg String.toList heq
  rw [toList_ofAddress_text hbase] at hchars
  simp at hchars

theorem ofAddress_eq_base_iff (hbase : base.toList.getLast? ≠ some '/') (address : Option String) :
    ofAddress base address = base ↔
      ∀ raw, address = some raw → ∀ c ∈ raw.toList, Text.isHexDigit c = false := by
  cases address with
  | none => exact iff_of_true rfl nofun
  | some raw =>
    cases h : DeviceId.ofText? raw with
    | some id =>
      refine iff_of_false (ofAddress_ne_base hbase h) ?_
      intro hnone
      rw [DeviceId.ofText?_eq_none_iff.2 (hnone raw rfl)] at h
      cases h
    | none =>
      have hnone := DeviceId.ofText?_eq_none_iff.1 h
      refine iff_of_true ?_ (by rintro _ ⟨⟩; exact hnone)
      unfold ofAddress
      rw [Option.bind_some, normalAddress?_eq_none_iff.2 hnone]

theorem ofAddress_append_slash {id : DeviceId} (hbase : base.toList.getLast? ≠ some '/')
    (h : DeviceId.ofText? raw = some id) :
    ofAddress (base ++ "/") (some raw) = ofAddress base (some raw) := by
  have hlast : (base ++ "/").toList.getLast? = some '/' := by simp
  unfold ofAddress
  rw [Option.bind_some, DeviceId.normalAddress?_eq_of_ofText? h]
  dsimp only
  rw [if_pos hlast, if_neg hbase]
  simp

theorem not_isWithin_both (hbase : base.toList.getLast? ≠ some '/')
    (hbase' : base'.toList.getLast? ≠ some '/') (h : isWithin base base' = false)
    (h' : isWithin base' base = false) (address address' : Option String)
    (hwithin : isWithin topic (ofAddress base address) = true) :
    isWithin topic (ofAddress base' address') = false := by
  rw [Bool.eq_false_iff]
  intro hwithin'
  have hbelow := isWithin_trans hwithin (isWithin_ofAddress hbase address)
  have hbelow' := isWithin_trans hwithin' (isWithin_ofAddress hbase' address')
  rcases isWithin_or_isWithin hbelow hbelow' with hle | hge
  . rw [h] at hle
    cases hle
  . rw [h'] at hge
    cases hge

structure DescendsFrom (base : String) : Prop where
  isWithin : ∀ address, isWithin (ofAddress base address) base = true
  eq_base_iff : ∀ address, ofAddress base address = base ↔
    ∀ raw, address = some raw → ∀ c ∈ raw.toList, Text.isHexDigit c = false
  append_slash : ∀ raw : String, (∃ c ∈ raw.toList, Text.isHexDigit c = true) →
    ofAddress (base ++ "/") (some raw) = ofAddress base (some raw)

theorem descendsFrom (hbase : base.toList.getLast? ≠ some '/') : DescendsFrom base := by
  constructor
  . exact isWithin_ofAddress hbase
  . exact ofAddress_eq_base_iff hbase
  . intro raw hraw
    obtain ⟨id, hid⟩ := DeviceId.exists_ofText?_eq_some hraw
    exact ofAddress_append_slash hbase hid

theorem ordered_and_scoping_descends :
    (∀ topic, isWithin topic topic = true) ∧
    (∀ a b c, isWithin a b = true → isWithin b c = true → isWithin a c = true) ∧
    (∀ a b, isWithin a b = true → isWithin b a = true → a = b) ∧
    (∀ base : String, base.toList.getLast? ≠ some '/' → DescendsFrom base) ∧
    ∀ base base' : String, base.toList.getLast? ≠ some '/' → base'.toList.getLast? ≠ some '/' →
      isWithin base base' = false → isWithin base' base = false →
      ∀ (address address' : Option String) (topic : String),
        isWithin topic (ofAddress base address) = true →
        isWithin topic (ofAddress base' address') = false := by
  refine ⟨isWithin_refl, ?_, ?_, ?_, ?_⟩
  . intro a b c
    exact isWithin_trans
  . intro a b
    exact isWithin_antisymm
  . intro base
    exact descendsFrom
  . intro base base' hbase hbase' h h' address address' topic
    exact not_isWithin_both hbase hbase' h h' address address'

theorem ordered_and_scoping_descends_commands :
    isWithin "esp/commands/status/AB/1" "esp/commands" = true ∧
    ofAddress "esp/commands/state/" (some "a:b") = ofAddress "esp/commands/state" (some "a:b") ∧
    ofAddress "esp/commands/state" (some "xyz") = "esp/commands/state" ∧
    isWithin "esp/commands/status/AB/1" (ofAddress "esp/commands/status" (some "a:b")) = true ∧
    isWithin "esp/commands/status/AB/1" (ofAddress "esp/commands/state" (some "ab")) = false := by
  have hstate : "esp/commands/state".toList.getLast? ≠ some '/' := by decide
  have hstatus : "esp/commands/status".toList.getLast? ≠ some '/' := by decide
  have hwithin : isWithin "esp/commands/status/AB/1"
      (ofAddress "esp/commands/status" (some "a:b")) = true := by
    decide +kernel
  obtain ⟨-, htrans, -, hdescends, hapart⟩ := ordered_and_scoping_descends
  have hbelow := htrans _ _ _ hwithin ((hdescends _ hstatus).isWithin _)
  have hroot : isWithin "esp/commands/status" "esp/commands" = true := by
    decide +kernel
  refine ⟨htrans _ _ _ hbelow hroot, ?_, ?_, hwithin, ?_⟩
  . exact (hdescends _ hstate).append_slash "a:b" ⟨'a', by decide, by decide⟩
  . refine ((hdescends _ hstate).eq_base_iff _).2 ?_
    rintro _ ⟨⟩
    exact normalAddress?_eq_none_iff.1 (by decide +kernel)
  . exact hapart _ _ hstatus hstate (by decide +kernel) (by decide +kernel) _ _ _ hwithin

end LockFleet.Topic
