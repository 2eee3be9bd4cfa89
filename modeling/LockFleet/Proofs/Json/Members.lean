import LockFleet.Json.Shape

/-!
This module contains the proof that the order in which members of different names are written does not
matter: the members in the order of their names are the same, and so is the depth of the object. Of members
of the same name the last one is kept. A value in normal form is its own normal form.
-/

namespace LockFleet.Json

abbrev Ascending (members : List (String × Json)) : Prop :=
  members.Pairwise fun m m' => m.1 < m'.1

variable {name : String} {members sorted written : List (String × Json)}

theorem mem_insertMember {m : String × Json} {value : Json} (h : m ∈ insertMember name value sorted) :
    m = (name, value) ∨ m ∈ sorted := by
  induction sorted with
  | nil => exact .inl (List.mem_singleton.1 h)
  | cons first rest ih =>
    unfold insertMember at h
    split at h
    . exact List.mem_cons.1 h
    split at h
    . exact (List.mem_cons.1 h).imp_right (List.mem_cons_of_mem _)
    . rcases List.mem_cons.1 h with rfl | h
      . exact .inr List.mem_cons_self
      . exact (ih h).imp_right (List.mem_cons_of_mem _)

theorem Ascending.insertMember (h : Ascending sorted) (name : String) (value : Json) :
    Ascending (insertMember name value sorted) := by
  induction sorted with
  | nil => exact List.pairwise_singleton ..
  | cons first rest ih =>
    obtain ⟨n, v⟩ := first
    obtain ⟨hhead, hrest⟩ := List.pairwise_cons.1 h
    unfold Json.insertMember
    split
    . next hlt =>
      refine List.pairwise_cons.2 ⟨?_, h⟩
      intro m hm
      rcases List.mem_cons.1 hm with rfl | hm
      . exact hlt
      . exact String.lt_trans hlt (hhead m hm)
    . next hge =>
      split
      . next heq =>
        subst heq
        exact List.pairwise_cons.2 ⟨hhead, hrest⟩
      . next hne =>
        refine List.pairwise_cons.2 ⟨?_, ih hrest⟩
        intro m hm
        rcases mem_insertMember hm with rfl | hm
        . exact Std.lt_of_le_of_ne hge (Ne.symm hne)
        . exact hhead m hm

theorem insertMember_perm (hnew : ∀ m ∈ sorted, m.1 ≠ name) (value : Json) :
    (insertMember name value sorted).Perm ((name, value) :: sorted) := by
  induction sorted with
  | nil => exact .refl _
  | cons first rest ih =>
    obtain ⟨n, v⟩ := first
    have hne : n ≠ name := hnew _ List.mem_cons_self
    unfold insertMember
    split
    . exact .refl _
    . rw [if_neg (Ne.symm hne)]
      exact ((ih fun m hm => hnew m (List.mem_cons_of_mem _ hm)).cons _).trans (.swap ..)

theorem Ascending.foldl_insertMember (h : Ascending sorted) (written : List (String × Json)) :
    Ascending (written.foldl (fun sorted m => Json.insertMember m.1 m.2 sorted) sorted) := by
  induction written generalizing sorted with
  | nil => exact h
  | cons m written ih => exact ih (h.insertMember m.1 m.2)

theorem foldl_insertMember_perm (hnames : (sorted.map Prod.fst ++ written.map Prod.fst).Nodup) :
    (written.foldl (fun sorted m => insertMember m.1 m.2 sorted) sorted).Perm (sorted ++ written) := by
  induction written generalizing sorted with
  | nil => simp
  | cons m written ih =>
    obtain ⟨name, value⟩ := m
    have hnew : ∀ m ∈ sorted, m.1 ≠ name := by
      rintro m hm rfl
      exact (List.nodup_append.1 hnames).2.2 _ (List.mem_map_of_mem hm) _ (by simp) rfl
    have hperm := insertMember_perm hnew value
    have hnames' : ((insertMember name value sorted).map Prod.fst ++ written.map Prod.fst).Nodup := by
      refine (List.Perm.nodup_iff ?_).1 hnames
      refine List.perm_middle.trans ?_
      exact ((hperm.map Prod.fst).append_right _).symm
    exact (ih hnames').trans ((hperm.append_right _).trans List.perm_middle.symm)

theorem ascending_sortMembers (members : List (String × Json)) : Ascending (sortMembers members) :=
  Ascending.foldl_insertMember .nil members

theorem Ascending.nodup_names (h : Ascending members) : (members.map Prod.fst).Nodup := by
  refine List.pairwise_map.2 (h.imp ?_)
  intro m m' hlt heq
  rw [heq] at hlt
  exact String.lt_irrefl _ hlt

theorem sortMembers_of_perm (h : Ascending members) (hperm : written.Perm members) :
    sortMembers written = members := by
  have hnames : (written.map Prod.fst).Nodup :=
    (hperm.map Prod.fst).nodup_iff.2 h.nodup_names
  have hstart : (([] : List (String × Json)).map Prod.fst ++ written.map Prod.fst).Nodup := hnames
  refine List.Perm.eq_of_pairwise ?_ (ascending_sortMembers written) h
    ((foldl_insertMember_perm hstart).trans hperm)
  intro m m' _ _ hlt hgt
  exact absurd hgt (String.lt_asymm hlt)

theorem mem_of_mem_sortMembers {m : String × Json} (h : m ∈ sortMembers members) : m ∈ members := by
  have hfold : ∀ sorted, m ∈ members.foldl (fun sorted m => insertMember m.1 m.2 sorted) sorted →
      m ∈ sorted ∨ m ∈ members := by
    clear h
    induction members with
    | nil => exact fun sorted hm => .inl hm
    | cons first rest ih =>
      intro sorted hm
      rcases ih _ hm with hm | hm
      . rcases mem_insertMember hm with rfl | hm
        . exact .inr List.mem_cons_self
        . exact .inl hm
      . exact .inr (List.mem_cons_of_mem _ hm)
  exact (hfold [] h).resolve_left List.not_mem_nil

theorem member?_cons (m : String × Json) (members : List (String × Json)) :
    member? (m :: members) name = if m.1 = name then some m.2 else member? members name := by
  unfold member?
  rw [List.find?_cons]
  split
  . next heq => rw [if_pos (beq_iff_eq.1 heq), Option.map_some]
  . next hne => rw [if_neg (beq_eq_false_iff_ne.1 hne)]

theorem member?_insertMember (name' : String) (value : Json) (sorted : List (String × Json)) :
    member? (insertMember name' value sorted) name
      = if name' = name then some value else member? sorted name := by
  induction sorted with
  | nil =>
    unfold insertMember
    rw [member?_cons]
  | cons m rest ih =>
    obtain ⟨n, v⟩ := m
    unfold insertMember
    split
    . rw [member?_cons]
    . split
      . next heq =>
        rw [member?_cons, member?_cons, heq]
        split <;> rfl
      . next hne =>
        rw [member?_cons, member?_cons, ih]
        dsimp only
        split
        . next hname =>
          subst hname
          rw [if_neg hne]
        . rfl

theorem member?_append (members members' : List (String × Json)) :
    member? (members ++ members') name = (member? members name).or (member? members' name) := by
  unfold member?
  rw [List.find?_append, Option.map_or]

theorem member?_foldl_insertMember (sorted members : List (String × Json)) :
    member? (members.foldl (fun sorted m => insertMember m.1 m.2 sorted) sorted) name
      = (member? members.reverse name).or (member? sorted name) := by
  induction members generalizing sorted with
  | nil => rfl
  | cons m members ih =>
    rw [List.foldl_cons, ih, member?_insertMember, List.reverse_cons, member?_append, Option.or_assoc,
      member?_cons]
    split <;> rfl

theorem member?_sortMembers (members : List (String × Json)) :
    member? (sortMembers members) name = member? members.reverse name := by
  unfold sortMembers
  rw [member?_foldl_insertMember]
  exact Option.or_none

theorem member?_reverse (h : members.countP (fun m => m.1 == name) ≤ 1) :
    member? members.reverse name = member? members name := by
  rw [List.countP_eq_length_filter] at h
  unfold member?
  rw [← List.head?_filter, ← List.head?_filter, List.filter_reverse]
  generalize members.filter (fun m => m.1 == name) = found at h ⊢
  cases found with
  | nil => rfl
  | cons m rest =>
    rw [List.length_cons] at h
    rw [List.eq_nil_of_length_eq_zero (by omega : rest.length = 0)]
    rfl

theorem normalizeMembers_eq_map (members : List (String × Json)) :
    normalizeMembers members = members.map fun m => (m.1, m.2.normalize) := by
  induction members with
  | nil => rfl
  | cons m members ih =>
    obtain ⟨name, v⟩ := m
    unfold normalizeMembers
    rw [ih]
    rfl

theorem sortMembers_normalizeMembers (hsorted : Ascending members)
    (hnormal : ∀ m ∈ members, m.2.normalize = m.2) : sortMembers (normalizeMembers members) = members := by
  have hsame : ∀ m ∈ members, (m.1, m.2.normalize) = id m := by
    intro m hm
    rw [hnormal m hm]
    rfl
  rw [normalizeMembers_eq_map, List.map_congr_left hsame, List.map_id]
  exact sortMembers_of_perm hsorted (.refl _)

mutual

theorem normalize_normalize : (v : Json) → v.normalize.normalize = v.normalize
  | .null | .bool _ | .integer _ | .real _ | .string _ => rfl
  | .array items => congrArg array (normalizeItems_normalizeItems items)
  | .object members => by
    refine congrArg object (sortMembers_normalizeMembers (ascending_sortMembers _) ?_)
    intro m hm
    exact normalize_of_mem_normalizeMembers members m (mem_of_mem_sortMembers hm)

theorem normalizeItems_normalizeItems :
    (items : List Json) → normalizeItems (normalizeItems items) = normalizeItems items
  | [] => rfl
  | v :: rest => by
    rw [normalizeItems, normalizeItems, normalize_normalize v, normalizeItems_normalizeItems rest]

theorem normalize_of_mem_normalizeMembers :
    (members : List (String × Json)) → ∀ m ∈ normalizeMembers members, m.2.normalize = m.2
  | [], _, h => nomatch h
  | first :: rest, m, h => by
    rcases List.mem_cons.1 h with rfl | h
    . exact normalize_normalizeMember first
    . exact normalize_of_mem_normalizeMembers rest m h

theorem normalize_normalizeMember :
    (m : String × Json) → (normalizeMember m).2.normalize = (normalizeMember m).2
  | (_, v) => normalize_normalize v

end

theorem member?_normalize (h : members.countP (fun m => m.1 == name) ≤ 1) :
    member? (sortMembers (normalizeMembers members)) name = (member? members name).map normalize := by
  rw [member?_sortMembers, normalizeMembers_eq_map, member?_reverse]
  . unfold member?
    rw [List.find?_map, Option.map_map, Option.map_map]
    rfl
  . rw [List.countP_map]
    exact h

theorem depthMember_eq (m : String × Json) : depthMember m = m.2.depth := by
  cases m
  rfl

theorem depthMembers_of_perm (h : written.Perm members) :
    depthMembers written = depthMembers members := by
  induction h with
  | nil => rfl
  | cons m _ ih => simp only [depthMembers, ih]
  | swap m m' rest => simp only [depthMembers]; omega
  | trans _ _ ih ih' => exact ih.trans ih'

theorem depthItems_le_iff {items : List Json} {most : Nat} :
    depthItems items ≤ most ↔ ∀ v ∈ items, v.depth ≤ most := by
  induction items with
  | nil => simp [depthItems]
  | cons v rest ih => rw [depthItems, Nat.max_le, ih, List.forall_mem_cons]

theorem member?_of_mem (hnames : (members.map Prod.fst).Nodup) {m : String × Json} (hm : m ∈ members) :
    member? members m.1 = some m.2 := by
  induction members with
  | nil => cases hm
  | cons first rest ih =>
    obtain ⟨hfirst, hrest⟩ := List.nodup_cons.1 hnames
    rw [member?_cons]
    rcases List.mem_cons.1 hm with rfl | hm
    . exact if_pos rfl
    . have hne : first.1 ≠ m.1 := by
        intro heq
        rw [heq] at hfirst
        exact hfirst (List.mem_map_of_mem hm)
      rw [if_neg hne]
      exact ih hrest hm

theorem fields?_object {names : List String} (hmembers : members.map Prod.fst = names)
    (hnames : names.Nodup) : fields? names (object members) = some (members.map fun m => some m.2) := by
  subst hmembers
  have honce : ((members.map Prod.fst).all fun n => members.countP (fun m => m.1 == n) ≤ 1) = true := by
    rw [List.all_eq_true]
    intro name _
    rw [decide_eq_true_eq]
    have hcount := List.nodup_iff_count.1 hnames name
    rwa [List.count, List.countP_map] at hcount
  unfold fields?
  dsimp only
  rw [if_pos honce, List.map_map]
  exact congrArg some (List.map_congr_left fun m hm => member?_of_mem hnames hm)

end LockFleet.Json
