import LockFleet.Device

/-!
This module contains tables with at most one entry for each device, in the order of the identifiers.
-/

namespace LockFleet

def insertEntry {α : Type} (id : DeviceId) (a : α) :
    List (DeviceId × α) → List (DeviceId × α)
  | [] => [(id, a)]
  | (d, b) :: rest =>
    if id < d then (id, a) :: (d, b) :: rest
    else if id = d then (id, a) :: rest
    else (d, b) :: insertEntry id a rest

def Ascending {α : Type} (entries : List (DeviceId × α)) : Prop :=
  entries.Pairwise fun a b => a.1 < b.1

theorem mem_insertEntry {α : Type} {id : DeviceId} {a : α} {entries : List (DeviceId × α)}
    {e : DeviceId × α} (h : e ∈ insertEntry id a entries) : e = (id, a) ∨ e ∈ entries := by
  induction entries with
  | nil => exact Or.inl (by simpa [insertEntry] using h)
  | cons head rest ih =>
    obtain ⟨d, b⟩ := head
    unfold insertEntry at h
    split at h
    · simpa using h
    · split at h
      · rcases List.mem_cons.1 h with h | h
        · exact Or.inl h
        · exact Or.inr (List.mem_cons_of_mem _ h)
      · rcases List.mem_cons.1 h with h | h
        · exact Or.inr (h ▸ List.mem_cons_self)
        · exact (ih h).imp (fun h => h) (List.mem_cons_of_mem _)

theorem Ascending.insertEntry {α : Type} (id : DeviceId) (a : α) {entries : List (DeviceId × α)}
    (h : Ascending entries) : Ascending (insertEntry id a entries) := by
  induction entries with
  | nil => simp [LockFleet.insertEntry, Ascending]
  | cons head rest ih =>
    obtain ⟨d, b⟩ := head
    have hrest : Ascending rest := List.Pairwise.of_cons h
    have hhead : ∀ e ∈ rest, d < e.1 := fun e he => List.rel_of_pairwise_cons h he
    unfold LockFleet.insertEntry
    split
    · rename_i hlt
      refine List.Pairwise.cons (fun e he => ?_) h
      rcases List.mem_cons.1 he with rfl | he
      · exact hlt
      · exact DeviceId.lt_trans hlt (hhead e he)
    · rename_i hge
      split
      · rename_i heq
        exact List.Pairwise.cons (fun e he => heq ▸ hhead e he) hrest
      · rename_i hne
        refine List.Pairwise.cons (fun e he => ?_) (ih hrest)
        rcases mem_insertEntry he with rfl | he
        · exact DeviceId.lt_of_not_lt hge hne
        · exact hhead e he

structure Roster (α : Type) where
  entries : List (DeviceId × α)
  ascending : Ascending entries

namespace Roster

variable {α : Type}

def empty : Roster α :=
  ⟨[], List.Pairwise.nil⟩

instance : Inhabited (Roster α) :=
  ⟨empty⟩

def size (r : Roster α) : Nat :=
  r.entries.length

def get? (r : Roster α) (id : DeviceId) : Option α :=
  (r.entries.find? fun e => e.1 == id).map Prod.snd

def insert (r : Roster α) (id : DeviceId) (a : α) : Roster α :=
  ⟨insertEntry id a r.entries, r.ascending.insertEntry id a⟩

def erase (r : Roster α) (id : DeviceId) : Roster α :=
  ⟨r.entries.filter fun e => e.1 != id, List.Pairwise.filter _ r.ascending⟩

@[simp]
theorem get?_empty (id : DeviceId) : (empty : Roster α).get? id = none := rfl

theorem find?_insertEntry (id d : DeviceId) (a : α) (entries : List (DeviceId × α)) :
    ((insertEntry id a entries).find? fun e => e.1 == d).map Prod.snd
      = if id = d then some a else (entries.find? fun e => e.1 == d).map Prod.snd := by
  induction entries with
  | nil => by_cases h : id = d <;> simp [insertEntry, h]
  | cons head rest ih =>
    obtain ⟨k, b⟩ := head
    unfold insertEntry
    split
    · by_cases h : id = d <;> simp [List.find?_cons, h]
    · split
      · rename_i hk
        subst hk
        by_cases h : id = d <;> simp [h]
      · rename_i hk
        by_cases h : k = d
        · subst h
          simp [hk]
        · simp [h, ih]

@[simp]
theorem get?_insert (r : Roster α) (id d : DeviceId) (a : α) :
    (r.insert id a).get? d = if id = d then some a else r.get? d :=
  find?_insertEntry id d a r.entries

@[simp]
theorem get?_erase (r : Roster α) (id d : DeviceId) :
    (r.erase id).get? d = if id = d then none else r.get? d := by
  simp only [get?, erase]
  induction r.entries with
  | nil => simp
  | cons head rest ih =>
    obtain ⟨k, b⟩ := head
    by_cases hk : k = id
    · subst hk
      by_cases h : k = d
      · simp [h]
      · simpa [List.find?_cons, h] using ih
    · by_cases h : k = d
      · subst h
        simp [hk, Ne.symm hk]
      · simp only [bne_iff_ne, ne_eq, hk, not_false_eq_true, List.filter_cons_of_pos,
          List.find?_cons, beq_eq_false_iff_ne.2 h]
        exact ih

end Roster
end LockFleet
