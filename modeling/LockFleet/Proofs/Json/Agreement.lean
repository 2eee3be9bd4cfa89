import LockFleet.Json.Shape

/-!
This module contains what a value that is read whole and the value that is read of the same text for a
shape have in common: they have the same form wherever the shape has a part, and what the shape wants of
them is equal. So a record whose fields are wanted as they are has the same fields in both, and a value of
which a shape wants everything is read as it is.
-/

namespace LockFleet.Json

namespace Shape

def at? (s : Shape) (frames : List Frame) : Option Shape :=
  frames.reverse.foldlM part? s

theorem at?_cons (s : Shape) (frame : Frame) (outer : List Frame) :
    s.at? (frame :: outer) = (s.at? outer).bind (·.part? frame) := by
  unfold at?
  rw [List.reverse_cons, List.foldlM_append]
  apply Option.bind_congr
  intro part _
  rw [List.foldlM_cons]
  exact bind_pure _

theorem skims_eq (s : Shape) (frames : List Frame) : s.skims frames = (frames.foldlM part? s).isNone := by
  induction frames generalizing s with
  | nil => rfl
  | cons frame rest ih =>
    unfold skims
    rw [List.foldlM_cons]
    cases s.part? frame with
    | none => rfl
    | some part => exact ih part

theorem skims_reverse (s : Shape) (frames : List Frame) :
    s.skims frames.reverse = (s.at? frames).isNone :=
  skims_eq s frames.reverse

theorem part?_items {before before' : List Json} (h : before'.length = before.length) (s : Shape) :
    s.part? (.items before') = s.part? (.items before) := by
  cases s with
  | whole => rfl
  | record fields =>
    unfold part?
    dsimp only
    rw [h]
  | list item => rfl

theorem part?_members (s : Shape) (before : List (String × Json)) :
    s.part? (.members before) = some .whole := by
  cases s <;> rfl

theorem part?_member (s : Shape) (before before' : List (String × Json)) (name : String) :
    s.part? (.member before' name) = s.part? (.member before name) := by
  cases s <;> rfl

variable {names : List String} {name : String}

theorem part?_plainRecord_member (h : name ∈ names) (before : List (String × Json)) :
    (plainRecord names).part? (.member before name) = some .whole := by
  have hsome : (names.find? ((fun f => f.1 == name) ∘ fun n => (n, Shape.whole))).isSome :=
    List.find?_isSome.2 ⟨name, h, beq_self_eq_true name⟩
  obtain ⟨n, hn⟩ := Option.isSome_iff_exists.1 hsome
  unfold plainRecord part?
  dsimp only
  rw [List.find?_map, hn]
  rfl

theorem part?_plainRecord_items {before : List Json} (h : before.length < names.length) :
    (plainRecord names).part? (.items before) = some .whole := by
  unfold plainRecord part?
  dsimp only
  rw [List.getElem?_map, List.getElem?_eq_getElem h]
  rfl

end Shape

/--
Two values that are the same as far as a shape goes. Without a shape any two are.
-/
inductive Agrees : Option Shape → Json → Json → Prop where
  | skimmed (v v' : Json) : Agrees none v v'
  | same (s : Option Shape) (v : Json) : Agrees s v v
  | item {s : Shape} {items items' : List Json} {v v' : Json}
      (hitems : Agrees (some s) (.array items) (.array items'))
      (hlast : Agrees (s.part? (.items items)) v v') :
      Agrees (some s) (.array (items ++ [v])) (.array (items' ++ [v']))
  | member {s : Shape} {members members' : List (String × Json)} {name : String} {v v' : Json}
      (hmembers : Agrees (some s) (.object members) (.object members'))
      (hlast : Agrees (s.part? (.member members name)) v v') :
      Agrees (some s) (.object (members ++ [(name, v)])) (.object (members' ++ [(name, v')]))

namespace Agrees

variable {s : Shape} {names : List String} {v v' : Json} {items : List Json}
  {members : List (String × Json)}

theorem append_item {part : Option Shape} {items items' : List Json}
    (h : Agrees part (.array items.reverse) (.array items'.reverse))
    (hlast : Agrees (part.bind (·.part? (.items items))) v v') :
    Agrees part (.array (items.reverse ++ [v])) (.array (items'.reverse ++ [v'])) := by
  cases part with
  | none => exact .skimmed ..
  | some s =>
    rw [Option.bind_some, ← s.part?_items List.length_reverse] at hlast
    exact .item h hlast

theorem append_member {part : Option Shape} {members members' : List (String × Json)}
    {name name' : String} (h : Agrees part (.object members.reverse) (.object members'.reverse))
    (hname : part = none ∨ name' = name)
    (hlast : Agrees (part.bind (·.part? (.member members name))) v v') :
    Agrees part (.object (members.reverse ++ [(name, v)])) (.object (members'.reverse ++ [(name', v')])) := by
  cases part with
  | none => exact .skimmed ..
  | some s =>
    rcases hname with hnone | rfl
    . cases hnone
    . rw [Option.bind_some, ← s.part?_member members members.reverse] at hlast
      exact .member h hlast

theorem eq_of_whole (h : Agrees (some .whole) v v') : v' = v := by
  generalize hs : some Shape.whole = part at h
  induction h with
  | skimmed v v' => cases hs
  | same part v => rfl
  | item hitems hlast ih ihlast =>
    cases hs
    have hitems := ih rfl
    injection hitems with hitems
    rw [hitems, ihlast rfl]
  | member hmembers hlast ih ihlast =>
    cases hs
    have hmembers := ih rfl
    injection hmembers with hmembers
    rw [hmembers, ihlast rfl]

theorem exists_eq_array (h : Agrees (some s) (.array items) v') :
    ∃ items', v' = .array items' ∧ items'.length = items.length := by
  generalize hs : some s = part at h
  generalize hv : Json.array items = v at h
  induction h generalizing items with
  | skimmed v v' => cases hs
  | same part v => exact ⟨items, hv.symm, rfl⟩
  | item hitems hlast ih =>
    cases hs
    cases hv
    obtain ⟨items', heq, hlength⟩ := ih rfl rfl
    cases heq
    exact ⟨_, rfl, by rw [List.length_append, List.length_append, hlength]; rfl⟩
  | member hmembers hlast => cases hv

theorem items_eq (h : Agrees (some (.plainRecord names)) (.array items) v')
    (hlength : items.length ≤ names.length) : v' = .array items := by
  generalize hs : some (Shape.plainRecord names) = part at h
  generalize hv : Json.array items = v at h
  induction h generalizing items with
  | skimmed v v' => cases hs
  | same part v => rfl
  | item hitems hlast ih =>
    cases hs
    cases hv
    rw [List.length_append, List.length_singleton] at hlength
    have hitems := ih (by omega) rfl rfl
    injection hitems with hitems
    rw [Shape.part?_plainRecord_items (by omega)] at hlast
    rw [hitems, hlast.eq_of_whole]
  | member hmembers hlast => cases hv

theorem exists_eq_object (h : Agrees (some (.plainRecord names)) (.object members) v') :
    ∃ members', v' = .object members' ∧ ∀ name ∈ names,
      (members'.filter fun m => m.1 == name) = members.filter fun m => m.1 == name := by
  generalize hs : some (Shape.plainRecord names) = part at h
  generalize hv : Json.object members = v at h
  induction h generalizing members with
  | skimmed v v' => cases hs
  | same part v => exact ⟨members, hv.symm, fun _ _ => rfl⟩
  | item hitems hlast => cases hv
  | @member _ _ _ last _ _ hmembers hlast ih =>
    -- The last member either is a field, and then its value is the same, or it is none and is passed over.
    cases hs
    cases hv
    obtain ⟨members', heq, hfields⟩ := ih rfl rfl
    cases heq
    refine ⟨_, rfl, ?_⟩
    intro name hname
    rw [List.filter_append, List.filter_append, hfields name hname]
    congr 1
    cases hlastname : last == name with
    | true =>
      rw [beq_iff_eq.1 hlastname, Shape.part?_plainRecord_member hname] at hlast
      rw [hlast.eq_of_whole]
    | false => simp [hlastname]

theorem fields?_eq (h : Agrees (some (.plainRecord names)) v v') : v'.fields? names = v.fields? names := by
  cases v with
  | array items =>
    obtain ⟨items', rfl, hlength⟩ := h.exists_eq_array
    unfold fields?
    dsimp only
    rw [hlength]
    split
    . next hall =>
      have hitems := h.items_eq (Nat.le_of_eq hall)
      injection hitems with hitems
      rw [hitems]
    . rfl
  | object members =>
    obtain ⟨members', rfl, hfields⟩ := h.exists_eq_object
    have hcount : ∀ n ∈ names, members'.countP (fun m => m.1 == n) = members.countP fun m => m.1 == n := by
      intro n hn
      rw [List.countP_eq_length_filter, List.countP_eq_length_filter, hfields n hn]
    have hmember : ∀ n ∈ names, member? members' n = member? members n := by
      intro n hn
      unfold member?
      rw [← List.head?_filter, ← List.head?_filter, hfields n hn]
    have hall : (names.all fun n => members'.countP (fun m => m.1 == n) ≤ 1)
        = names.all fun n => members.countP (fun m => m.1 == n) ≤ 1 := by
      rw [Bool.eq_iff_iff, List.all_eq_true, List.all_eq_true]
      exact forall₂_congr fun n hn => by rw [hcount n hn]
    unfold fields?
    dsimp only
    rw [hall, List.map_congr_left hmember]
  | null =>
    cases h
    rfl
  | bool b =>
    cases h
    rfl
  | integer n =>
    cases h
    rfl
  | real x =>
    cases h
    rfl
  | string text =>
    cases h
    rfl

end Agrees

namespace Shape

def Keeps (s : Shape) (v : Json) : Prop :=
  ∀ v', Agrees (some s) v v' → v' = v

variable {s : Shape} {v : Json}

theorem keeps_whole (v : Json) : whole.Keeps v :=
  fun _ h => h.eq_of_whole

theorem keeps_array {items : List Json} (h : ∀ v ∈ items, s.Keeps v) :
    (list s).Keeps (.array items) := by
  intro v' hagrees
  generalize hs : some (list s) = part at hagrees
  generalize hv : Json.array items = v at hagrees
  induction hagrees generalizing items with
  | skimmed v v' => cases hs
  | same part v => rfl
  | item hitems hlast ih =>
    cases hs
    cases hv
    have hitems := ih (fun v hmem => h v (List.mem_append_left _ hmem)) rfl rfl
    injection hitems with hitems
    rw [hitems, h _ List.mem_concat_self _ hlast]
  | member hmembers hlast => cases hv

theorem keeps_object {members : List (String × Json)}
    (h : ∀ m ∈ members, ∃ part, s.part? (.member [] m.1) = some part ∧ part.Keeps m.2) :
    s.Keeps (.object members) := by
  intro v' hagrees
  generalize hs : some s = part at hagrees
  generalize hv : Json.object members = v at hagrees
  induction hagrees generalizing members with
  | skimmed v v' => cases hs
  | same part v => rfl
  | item hitems hlast => cases hv
  | member hmembers hlast ih =>
    cases hs
    cases hv
    have hmembers := ih (fun m hmem => h m (List.mem_append_left _ hmem)) rfl rfl
    injection hmembers with hmembers
    obtain ⟨part, hpart, hkeeps⟩ := h _ List.mem_concat_self
    rw [s.part?_member, hpart] at hlast
    rw [hmembers, hkeeps _ hlast]

theorem keeps_plainRecord {names : List String} {members : List (String × Json)}
    (h : ∀ m ∈ members, m.1 ∈ names) : (plainRecord names).Keeps (.object members) :=
  keeps_object fun m hm => ⟨.whole, part?_plainRecord_member (h m hm) [], keeps_whole m.2⟩

end Shape
end LockFleet.Json
