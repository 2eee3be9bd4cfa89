import LockFleet.Proofs.Toml.Lines

/-!
This module contains the proof that a document of tables with different names, in which the keys of
each table are different, is read back.
-/

namespace LockFleet.Toml

namespace Table

variable {isImplicit isDotted : Bool} {members : List (String × Item)} {key : String} {item : Item}

theorem find?_of_not_mem (h : key ∉ members.map Prod.fst) :
    (⟨isImplicit, isDotted, members⟩ : Table).find? key = none := by
  have hfind : members.find? (fun m => m.1 == key) = none := by
    rw [List.find?_eq_none]
    rintro m hm heq
    rw [beq_iff_eq] at heq
    exact h (heq ▸ List.mem_map_of_mem hm)
  unfold find?
  rw [hfind]
  rfl

theorem set_of_not_mem (h : key ∉ members.map Prod.fst) :
    (⟨isImplicit, isDotted, members⟩ : Table).set key item
      = ⟨isImplicit, isDotted, members ++ [(key, item)]⟩ := by
  unfold set
  rw [if_neg]
  intro hany
  obtain ⟨m, hm, heq⟩ := List.any_eq_true.1 hany
  rw [beq_iff_eq] at heq
  exact h (heq ▸ List.mem_map_of_mem hm)

theorem find?_last (h : key ∉ members.map Prod.fst) :
    (⟨isImplicit, isDotted, members ++ [(key, item)]⟩ : Table).find? key = some item := by
  have hfind : (⟨isImplicit, isDotted, members⟩ : Table).find? key = none := find?_of_not_mem h
  unfold find? at hfind ⊢
  rw [List.find?_append, Option.map_eq_none_iff.1 hfind, List.find?_singleton, if_pos (beq_self_eq_true _)]
  rfl

theorem set_last (h : key ∉ members.map Prod.fst) (item' : Item) :
    (⟨isImplicit, isDotted, members ++ [(key, item)]⟩ : Table).set key item'
      = ⟨isImplicit, isDotted, members ++ [(key, item')]⟩ := by
  have hkeep : members.map (fun m => if m.1 == key then (key, item') else m) = members := by
    rw [List.map_congr_left, List.map_id]
    intro m hm
    rw [if_neg]
    . rfl
    intro heq
    rw [beq_iff_eq] at heq
    exact h (heq ▸ List.mem_map_of_mem hm)
  have hmap : (members ++ [(key, item)]).map (fun m => if m.1 == key then (key, item') else m)
      = members ++ [(key, item')] := by
    rw [List.map_append, hkeep, List.map_singleton, if_pos (beq_self_eq_true key)]
  unfold set
  rw [if_pos (by simp), hmap]

theorem assign_of_not_mem (h : key ∉ members.map Prod.fst) (item : Item) :
    assign [] key item ⟨isImplicit, false, members⟩
      = some ⟨isImplicit, false, members ++ [(key, item)]⟩ := by
  unfold assign
  rw [change, if_neg (by simp), find?_of_not_mem h]
  exact congrArg some (set_of_not_mem h)

theorem openTable_of_not_mem (h : key ∉ members.map Prod.fst) :
    openTable key (explicit members) = some (explicit (members ++ [(key, .table false false [])])) := by
  unfold openTable explicit
  rw [find?_of_not_mem h]
  exact congrArg some (set_of_not_mem h)

end Table

def sectionItem (s : String × List (String × Plain)) : String × Item :=
  (s.1, .table false false (s.2.map fun line => (line.1, .value line.2.value)))

namespace Document

variable {name : String} {before : List (String × Item)}

theorem add_header (h : name ∉ before.map Prod.fst) (current : List String) :
    add ⟨.explicit before, current⟩ (.header [] name)
      = some ⟨.explicit (before ++ [(name, .table false false [])]), [name]⟩ := by
  unfold add
  dsimp only
  rw [Table.change, Table.openTable_of_not_mem h]
  rfl

theorem add_assign {members : List (String × Item)} {key : String} (h : name ∉ before.map Prod.fst)
    (hkey : key ∉ members.map Prod.fst) (v : Value) :
    add ⟨.explicit (before ++ [(name, .table false false members)]), [name]⟩ (.assign [] key v)
      = some ⟨.explicit (before ++ [(name, .table false false (members ++ [(key, .value v)]))]),
          [name]⟩ := by
  unfold add Table.explicit
  dsimp only
  rw [Table.change, Table.find?_last h]
  dsimp only
  rw [if_neg (by simp), Table.change, Table.assign_of_not_mem hkey, Option.map_some, Option.map_some,
    Table.set_last h]
  rfl

theorem foldlM_add_lines {lines : List (String × Plain)} {members : List (String × Item)}
    (h : name ∉ before.map Prod.fst)
    (hkeys : (members.map Prod.fst ++ lines.map Prod.fst).Nodup) :
    (lines.map fun line => Statement.assign [] line.1 line.2.value).foldlM add
        ⟨.explicit (before ++ [(name, .table false false members)]), [name]⟩
      = some ⟨.explicit (before ++ [(name, .table false false
          (members ++ lines.map fun line => (line.1, .value line.2.value)))]), [name]⟩ := by
  induction lines generalizing members with
  | nil =>
    rw [List.map_nil, List.map_nil, List.append_nil]
    rfl
  | cons line lines ih =>
    have hkey : line.1 ∉ members.map Prod.fst := by
      intro hmem
      exact (List.nodup_append.1 hkeys).2.2 _ hmem _ List.mem_cons_self rfl
    have hrest : ((members ++ [(line.1, Item.value line.2.value)]).map Prod.fst
        ++ lines.map Prod.fst).Nodup := by
      simpa using hkeys
    rw [List.map_cons, List.foldlM_cons, add_assign h hkey, Option.bind_eq_bind, Option.bind_some,
      ih hrest]
    simp

theorem foldlM_add_sections {sections : List (String × List (String × Plain))} (current : List String)
    (hnames : (before.map Prod.fst ++ sections.map Prod.fst).Nodup)
    (hkeys : ∀ s ∈ sections, (s.2.map Prod.fst).Nodup) :
    ∃ last, (sections.flatMap sectionStatements).foldlM add ⟨.explicit before, current⟩
      = some ⟨.explicit (before ++ sections.map sectionItem), last⟩ := by
  induction sections generalizing before current with
  | nil => exact ⟨current, by rw [List.map_nil, List.append_nil]; rfl⟩
  | cons s sections ih =>
    have hname : s.1 ∉ before.map Prod.fst := by
      intro hmem
      exact (List.nodup_append.1 hnames).2.2 _ hmem _ List.mem_cons_self rfl
    have hnone : (([] : List (String × Item)).map Prod.fst ++ s.2.map Prod.fst).Nodup :=
      hkeys s List.mem_cons_self
    have hrest : ((before ++ [sectionItem s]).map Prod.fst ++ sections.map Prod.fst).Nodup := by
      simpa [sectionItem] using hnames
    have hsection : (sectionStatements s).foldlM add ⟨.explicit before, current⟩
        = some ⟨.explicit (before ++ [sectionItem s]), [s.1]⟩ := by
      unfold sectionStatements
      rw [List.foldlM_cons, add_header hname]
      exact foldlM_add_lines hname hnone
    obtain ⟨last, hlast⟩ := ih [s.1] hrest fun t ht => hkeys t (List.mem_cons_of_mem _ ht)
    refine ⟨last, ?_⟩
    rw [List.flatMap_cons, List.foldlM_append, hsection, Option.bind_eq_bind, Option.bind_some, hlast]
    simp

end Document

theorem toMembers_eq_map (members : List (String × Item)) :
    Item.toMembers members = members.map fun m => (m.1, m.2.toValue) := by
  induction members with
  | nil => rfl
  | cons m members ih =>
    rw [Item.toMembers, Item.toMember, ih]
    rfl

def sectionValue (s : String × List (String × Plain)) : String × Value :=
  (s.1, .table (s.2.map fun line => (line.1, line.2.value)))

theorem skipMark_printSections (sections : List (String × List (String × Plain))) :
    skipMark (printSections sections) = printSections sections := by
  cases sections with
  | nil => rfl
  | cons s sections =>
    have hbracket : ∃ text, printSections (s :: sections) = '[' :: text := by
      cases sections with
      | nil => exact ⟨_, rfl⟩
      | cons t sections => exact ⟨_, List.intercalate_cons_cons⟩
    obtain ⟨text, htext⟩ := hbracket
    rw [htext]
    rfl

theorem toValue_sectionItem (s : String × List (String × Plain)) :
    ((sectionItem s).1, (sectionItem s).2.toValue) = sectionValue s := by
  unfold sectionItem sectionValue
  rw [Item.toValue, toMembers_eq_map, List.map_map]
  rfl

theorem read_printSections {sections : List (String × List (String × Plain))}
    (h : ∀ s ∈ sections, IsSection s) (hnames : (sections.map Prod.fst).Nodup)
    (hkeys : ∀ s ∈ sections, (s.2.map Prod.fst).Nodup) :
    read (printSections sections) = some (sections.map sectionValue) := by
  have hstatements := makes_printSections h _ [] (Nat.lt_succ_self _)
  have hnone : (([] : List (String × Item)).map Prod.fst ++ sections.map Prod.fst).Nodup := hnames
  obtain ⟨last, hdocument⟩ := Document.foldlM_add_sections [] hnone hkeys
  rw [List.nil_append] at hdocument
  have hmembers : Item.toMembers (sections.map sectionItem) = sections.map sectionValue := by
    rw [toMembers_eq_map, List.map_map]
    exact List.map_congr_left fun s _ => toValue_sectionItem s
  unfold read
  dsimp only
  rw [skipMark_printSections, hstatements, Option.bind_eq_bind, Option.bind_some, List.reverse_nil,
    List.nil_append, Document.empty, hdocument]
  exact congrArg some hmembers

end LockFleet.Toml
