import LockFleet.Text.Levels
import LockFleet.Topic.Basic

/-!
This module contains what it means for a topic to lie within another one: its first levels are those of
the other topic. No topic lies within two roots of reports.
-/

namespace LockFleet

namespace Text

theorem exists_eq_cons_of_levels {c : Char} {chars level : List Char} {more : List (List Char)}
    (h : levels chars = (c :: level) :: more) :
    ∃ rest, chars = c :: rest ∧ levels rest = level :: more := by
  cases chars with
  | nil => cases h
  | cons d rest =>
    by_cases hd : d = '/'
    . rw [hd, levels_slash] at h
      cases h
    . obtain ⟨first, others, hrest⟩ := List.exists_cons_of_ne_nil (levels_ne_nil rest)
      rw [levels_cons_of_ne hd hrest] at h
      cases h
      exact ⟨rest, rfl, hrest⟩

theorem eq_nil_or_eq_slash_of_levels {chars : List Char} {more : List (List Char)}
    (h : levels chars = [] :: more) :
    (chars = [] ∧ more = []) ∨ ∃ rest, chars = '/' :: rest ∧ levels rest = more := by
  cases chars with
  | nil =>
    cases h
    exact Or.inl ⟨rfl, rfl⟩
  | cons d rest =>
    right
    by_cases hd : d = '/'
    . rw [hd, levels_slash] at h
      cases h
      exact ⟨rest, by rw [hd], rfl⟩
    . obtain ⟨first, others, hrest⟩ := List.exists_cons_of_ne_nil (levels_ne_nil rest)
      rw [levels_cons_of_ne hd hrest] at h
      cases h

theorem levels_isPrefix_iff {start chars : List Char} :
    levels start <+: levels chars ↔ chars = start ∨ ∃ rest, chars = start ++ '/' :: rest := by
  constructor
  . rintro ⟨more, hmore⟩
    -- Whether `start` begins with a slash tells whether its first level is empty, and so whether
    -- `chars` begins with a slash as well.
    induction start generalizing chars with
    | nil =>
      rcases eq_nil_or_eq_slash_of_levels hmore.symm with ⟨hchars, _⟩ | ⟨rest, hchars, _⟩
      . exact Or.inl hchars
      . exact Or.inr ⟨rest, hchars⟩
    | cons c start ih =>
      by_cases hc : c = '/'
      . subst hc
        rw [levels_slash] at hmore
        rcases eq_nil_or_eq_slash_of_levels hmore.symm with ⟨_, hnil⟩ | ⟨rest, rfl, hrest⟩
        . exact absurd (List.append_eq_nil_iff.1 hnil).1 (levels_ne_nil start)
        . exact (ih hrest.symm).imp (congrArg _) fun ⟨r, hr⟩ => ⟨r, congrArg _ hr⟩
      . obtain ⟨level, others, hstart⟩ := List.exists_cons_of_ne_nil (levels_ne_nil start)
        rw [levels_cons_of_ne hc hstart, List.cons_append] at hmore
        obtain ⟨rest, rfl, hrest⟩ := exists_eq_cons_of_levels hmore.symm
        rw [← List.cons_append, ← hstart] at hrest
        exact (ih hrest.symm).imp (congrArg _) fun ⟨r, hr⟩ => ⟨r, congrArg _ hr⟩
  . rintro (rfl | ⟨rest, rfl⟩)
    . exact List.prefix_refl _
    . rw [levels_append]
      exact List.prefix_append _ _

end Text

namespace Topic

theorem isWithin_iff {topic base : String} :
    isWithin topic base = true ↔
      topic.toList = base.toList ∨ ∃ rest, topic.toList = base.toList ++ '/' :: rest := by
  unfold isWithin
  rw [Bool.or_eq_true, beq_iff_eq, List.isPrefixOf_iff_prefix]
  apply or_congr Iff.rfl
  constructor
  . rintro ⟨rest, hrest⟩
    exact ⟨rest, by rw [← hrest, List.append_assoc, List.singleton_append]⟩
  . rintro ⟨rest, hrest⟩
    exact ⟨rest, by rw [hrest, List.append_assoc, List.singleton_append]⟩

theorem isWithin_iff_isPrefix {topic base : String} :
    isWithin topic base = true ↔ Text.levels base.toList <+: Text.levels topic.toList := by
  rw [isWithin_iff, Text.levels_isPrefix_iff]

theorem StatusRoot.eq_of_isPrefix {root root' : StatusRoot}
    (h : Text.levels root.base.toList <+: Text.levels root'.base.toList) : root = root' := by
  rw [← List.isPrefixOf_iff_prefix] at h
  revert h
  cases root <;> cases root' <;> decide

theorem StatusRoot.eq_of_isWithin {topic : String} {root root' : StatusRoot}
    (h : isWithin topic root.base = true) (h' : isWithin topic root'.base = true) :
    root = root' := by
  rw [isWithin_iff_isPrefix] at h h'
  rcases List.prefix_or_prefix_of_prefix h h' with hle | hge
  . exact eq_of_isPrefix hle
  . exact (eq_of_isPrefix hge).symm

end Topic
end LockFleet
