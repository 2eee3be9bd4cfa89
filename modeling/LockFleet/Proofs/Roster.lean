import Mathlib.Data.List.Perm.Subperm
import LockFleet.Roster

/-!
This module contains what the order of the entries is good for: an entry is found wherever it stands,
tables of the same devices list them in the same order, and a table whose devices are all in another table
has no more entries than that.
-/

namespace LockFleet.Roster

variable {α β : Type}

theorem find?_of_mem {entries : List (DeviceId × α)} (h : Ascending entries) {e : DeviceId × α}
    (he : e ∈ entries) : (entries.find? fun x => x.1 == e.1) = some e := by
  induction entries with
  | nil => cases he
  | cons head rest ih =>
    rcases List.mem_cons.1 he with rfl | he
    . simp
    . have hlt : head.1 < e.1 := List.rel_of_pairwise_cons h he
      have hne : head.1 ≠ e.1 := by
        intro heq
        rw [heq] at hlt
        exact DeviceId.lt_irrefl _ hlt
      rw [List.find?_cons_of_neg (by simp [hne])]
      exact ih (List.Pairwise.of_cons h) he

theorem get?_eq_some_iff {r : Roster α} {id : DeviceId} {a : α} :
    r.get? id = some a ↔ (id, a) ∈ r.entries := by
  unfold get?
  constructor
  . intro h
    obtain ⟨e, he, rfl⟩ := Option.map_eq_some_iff.1 h
    have hid : e.1 = id := by simpa using List.find?_some he
    rw [← hid]
    exact List.mem_of_find?_eq_some he
  . intro h
    rw [find?_of_mem r.ascending h]
    rfl

theorem isSome_get?_iff {r : Roster α} {id : DeviceId} :
    (r.get? id).isSome = true ↔ id ∈ r.entries.map Prod.fst := by
  rw [Option.isSome_iff_exists, List.mem_map]
  constructor
  . rintro ⟨a, ha⟩
    exact ⟨(id, a), get?_eq_some_iff.1 ha, rfl⟩
  . rintro ⟨⟨_, a⟩, ha, rfl⟩
    exact ⟨a, get?_eq_some_iff.2 ha⟩

theorem ascending_devices (r : Roster α) : (r.entries.map Prod.fst).Pairwise (· < ·) := by
  rw [List.pairwise_map]
  exact r.ascending

theorem nodup_devices (r : Roster α) : (r.entries.map Prod.fst).Nodup := by
  rw [List.nodup_iff_pairwise_ne]
  apply r.ascending_devices.imp
  intro a b hlt heq
  rw [heq] at hlt
  exact DeviceId.lt_irrefl _ hlt

theorem devices_eq_of_forall_isSome {r : Roster α} {r' : Roster β}
    (h : ∀ id, (r.get? id).isSome = true ↔ (r'.get? id).isSome = true) :
    r.entries.map Prod.fst = r'.entries.map Prod.fst := by
  have hperm : (r.entries.map Prod.fst).Perm (r'.entries.map Prod.fst) := by
    rw [List.perm_ext_iff_of_nodup r.nodup_devices r'.nodup_devices]
    intro id
    rw [← isSome_get?_iff, ← isSome_get?_iff]
    exact h id
  apply hperm.eq_of_pairwise _ r.ascending_devices r'.ascending_devices
  intro a b _ _ hab hba
  exact absurd (DeviceId.lt_trans hab hba) (DeviceId.lt_irrefl a)

theorem size_le_of_forall_isSome {r : Roster α} {r' : Roster β}
    (h : ∀ id a, r.get? id = some a → (r'.get? id).isSome = true) : r.size ≤ r'.size := by
  have hsubset : r.entries.map Prod.fst ⊆ r'.entries.map Prod.fst := by
    intro id hid
    rw [← isSome_get?_iff] at hid ⊢
    obtain ⟨a, ha⟩ := Option.isSome_iff_exists.1 hid
    exact h id a ha
  have hle := (r.nodup_devices.subperm hsubset).length_le
  rw [List.length_map, List.length_map] at hle
  exact hle

end LockFleet.Roster
