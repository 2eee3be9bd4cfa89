import LockFleet.Proofs.Concurrent.Turn

/-!
This module contains what the steps of the machine do to the slots, the table and the errands, one
lemma for each part of the state.
-/

namespace LockFleet.Concurrent

namespace Phase

def attended? : Phase → Option Lease
  | waiting l | locked l | planned l _ _ | answered l _ _ | unlocked l _ => some l
  | arrived | checked _ _ | gone _ => none

def held? : Phase → Option Nat
  | locked l | planned l _ _ | answered l _ _ => some l.slot
  | arrived | waiting _ | unlocked _ _ | checked _ _ | gone _ => none

variable {p : Phase}

theorem slot?_of_attended? {l : Lease} (h : p.attended? = some l) : p.slot? = some l.slot := by
  cases p <;> cases h <;> rfl

theorem exists_attended?_of_held? {k : Nat} (h : p.held? = some k) :
    ∃ l, p.attended? = some l ∧ l.slot = k := by
  cases p <;> cases h <;> exact ⟨_, rfl, rfl⟩

end Phase

namespace State

variable (s : State)

def lock? (k : Nat) : Option Nat :=
  (s.slots[k]?).bind Slot.lockedBy

def held? (n : Nat) : Option Nat :=
  (s.errands[n]?).bind fun e => e.phase.held?

def slotOf? (id : DeviceId) : Option Slot :=
  (s.table.get? id).bind fun k => s.slots[k]?

variable {s} {n m : Nat} {e e' : Errand}

theorem getElem?_errands_setPhase (he : s.errands[n]? = some e') (e : Errand) (p : Phase) :
    (s.setPhase n e p).errands[m]?
      = if n = m then some { e with phase := p } else s.errands[m]? := by
  obtain ⟨hn, _⟩ := List.getElem?_eq_some_iff.1 he
  unfold setPhase
  rw [List.getElem?_set]
  split <;> rfl

theorem held?_setPhase (he : s.errands[n]? = some e') (e : Errand) (p : Phase) :
    (s.setPhase n e p).held? m = if n = m then p.held? else s.held? m := by
  unfold held?
  rw [getElem?_errands_setPhase he]
  split <;> rfl

theorem getElem?_append_singleton {α : Type} (as : List α) (a : α) (i : Nat) :
    (as ++ [a])[i]? = as[i]? ∨ as[i]? = none ∧ (as ++ [a])[i]? = some a := by
  rcases Nat.lt_trichotomy i as.length with h | h | h
  . exact .inl (List.getElem?_append_left h)
  . subst h
    exact .inr ⟨List.getElem?_eq_none (Nat.le_refl _), List.getElem?_concat_length⟩
  . left
    rw [List.getElem?_eq_none, List.getElem?_eq_none]
    . omega
    . rw [List.length_append, List.length_singleton]
      omega

theorem held?_arrive (s : State) (raw : String) (c : Command) (n : Nat) :
    State.held? { s with errands := s.errands ++ [⟨raw, c, .arrived⟩] } n = s.held? n := by
  unfold held?
  dsimp
  rcases getElem?_append_singleton s.errands ⟨raw, c, .arrived⟩ n with h | ⟨hn, h⟩
  . rw [h]
  . rw [h, hn]
    rfl

theorem getElem?_slots_setSlot {k : Nat} {t : Slot} (ht : s.slots[k]? = some t) (t' : Slot)
    (i : Nat) :
    (s.setSlot k t').slots[i]? = if k = i then some t' else s.slots[i]? := by
  obtain ⟨hk, _⟩ := List.getElem?_eq_some_iff.1 ht
  unfold setSlot
  rw [List.getElem?_set]
  split <;> rfl

theorem lock?_setSlot {k : Nat} {t : Slot} (ht : s.slots[k]? = some t) (t' : Slot) (i : Nat) :
    (s.setSlot k t').lock? i = if k = i then t'.lockedBy else s.lock? i := by
  unfold lock?
  rw [getElem?_slots_setSlot ht]
  split <;> rfl

theorem lock?_setSlot_pending {k : Nat} {t : Slot} (ht : s.slots[k]? = some t)
    (pending : Option Pending) (i : Nat) :
    (s.setSlot k { t with pending := pending }).lock? i = s.lock? i := by
  rw [lock?_setSlot ht]
  split
  . next hki =>
    subst hki
    unfold lock?
    rw [ht]
    rfl
  . rfl

theorem getElem?_slots_unlock (k : Nat) (pending : Option Pending) (i : Nat) :
    (s.unlock k pending).slots[i]?
      = if k = i then (s.slots[i]?).map fun t => ⟨pending.or t.pending, none⟩ else s.slots[i]? := by
  unfold unlock
  rw [List.getElem?_modify]
  split
  . rfl
  . exact Option.map_id' ..

theorem lock?_unlock (k : Nat) (pending : Option Pending) (i : Nat) :
    (s.unlock k pending).lock? i = if k = i then none else s.lock? i := by
  unfold lock?
  rw [getElem?_slots_unlock]
  split
  . cases s.slots[i]? <;> rfl
  . rfl

theorem lock?_addSlot (device : DeviceId) (i : Nat) : (s.addSlot device).lock? i = s.lock? i := by
  unfold lock? addSlot
  dsimp
  rw [List.getElem?_append]
  split
  . rfl
  . next hi =>
    rw [List.getElem?_eq_none (Nat.le_of_not_lt hi)]
    cases i - s.slots.length with
    | zero => rfl
    | succ j => rfl

theorem errands_dropUnused (s : State) (l : Lease) : (s.dropUnused l).errands = s.errands := by
  unfold dropUnused
  split <;> rfl

theorem slots_dropUnused (s : State) (l : Lease) : (s.dropUnused l).slots = s.slots := by
  unfold dropUnused
  split <;> rfl

theorem registry_dropUnused (s : State) (l : Lease) :
    (s.dropUnused l).registry = s.registry := by
  unfold dropUnused
  split <;> rfl

theorem published_dropUnused (s : State) (l : Lease) :
    (s.dropUnused l).published = s.published := by
  unfold dropUnused
  split <;> rfl

theorem exists_entry_of_get? {id : DeviceId} {k : Nat} (h : s.table.get? id = some k) :
    0 < s.table.entries.countP fun entry => entry.2 == k := by
  obtain ⟨entry, hentry, hk⟩ := Option.map_eq_some_iff.1 h
  rw [List.countP_pos_iff]
  exact ⟨entry, List.mem_of_find?_eq_some hentry, beq_iff_eq.2 hk⟩

theorem one_lt_countP {α : Type} {q : α → Bool} {as : List α} {i j : Nat} {a b : α} (hij : i < j)
    (hi : as[i]? = some a) (hj : as[j]? = some b) (ha : q a = true) (hb : q b = true) :
    1 < as.countP q := by
  have htake : 0 < (as.take j).countP q := by
    rw [List.countP_pos_iff]
    refine ⟨a, ?_, ha⟩
    rw [List.mem_iff_getElem?]
    exact ⟨i, by rw [List.getElem?_take_of_lt hij, hi]⟩
  have hdrop : 0 < (as.drop j).countP q := by
    rw [List.countP_pos_iff]
    refine ⟨b, ?_, hb⟩
    rw [List.mem_iff_getElem?]
    exact ⟨0, by rw [List.getElem?_drop, Nat.add_zero, hj]⟩
  rw [← List.take_append_drop j as, List.countP_append]
  omega

theorem eq_of_references_eq_two {id : DeviceId} {k : Nat} (h : s.references k = 2)
    (hk : s.table.get? id = some k) (he : s.errands[n]? = some e) (hn : e.phase.slot? = some k)
    (he' : s.errands[m]? = some e') (hm : e'.phase.slot? = some k) : m = n := by
  -- One of the two references is that of the table.
  have hentry := exists_entry_of_get? hk
  unfold references at h
  apply Decidable.byContradiction
  intro hne
  rcases Nat.lt_or_gt_of_ne hne with hlt | hlt
  . have htwo := one_lt_countP hlt he' he
      (q := fun e => e.phase.slot? == some k) (beq_iff_eq.2 hm) (beq_iff_eq.2 hn)
    omega
  . have htwo := one_lt_countP hlt he he'
      (q := fun e => e.phase.slot? == some k) (beq_iff_eq.2 hn) (beq_iff_eq.2 hm)
    omega

theorem slotOf?_congr {s' : State} {id : DeviceId} (htable : s'.table.get? id = s.table.get? id)
    (hslots : ∀ k, s.table.get? id = some k → s'.slots[k]? = s.slots[k]?) :
    s'.slotOf? id = s.slotOf? id := by
  unfold slotOf?
  rw [htable]
  cases hk : s.table.get? id with
  | none => rfl
  | some k => exact hslots k hk

theorem slotOf?_setPhase (s : State) (n : Nat) (e : Errand) (p : Phase) (id : DeviceId) :
    (s.setPhase n e p).slotOf? id = s.slotOf? id := rfl

end State

namespace Turn

variable {s shared : State} {n : Nat} {e : Errand} {event : Event} {p : Phase}

theorem errands_eq (h : Turn s n e event shared p) : shared.errands = s.errands := by
  cases h
  case check => apply State.errands_dropUnused
  all_goals rfl

theorem registry_eq (h : Turn s n e event shared p) : shared.registry = s.registry := by
  cases h
  case check => apply State.registry_dropUnused
  all_goals rfl

end Turn
end LockFleet.Concurrent
