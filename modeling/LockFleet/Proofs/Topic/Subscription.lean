import LockFleet.Proofs.Topic.Classification
import LockFleet.Topic.Filter

/-!
This module contains the proof that the server subscribes to exactly the topics that it reads as topics
of reports. A filter that ends in `#` stands for the topics whose first levels are its other levels, and
the reading of topics looks for the same thing in the text of the topic.
-/

namespace LockFleet.Topic

namespace Filter

def IsPlain (filter : List (List Char)) : Prop :=
  ∀ f ∈ filter, f ≠ anyLevel ∧ f ≠ anyRest

instance (filter : List (List Char)) : Decidable (IsPlain filter) :=
  inferInstanceAs (Decidable (∀ f ∈ filter, f ≠ anyLevel ∧ f ≠ anyRest))

variable {filter topic : List (List Char)}

theorem IsPlain.head {f : List Char} (h : IsPlain (f :: filter)) : f ≠ anyLevel ∧ f ≠ anyRest :=
  h f List.mem_cons_self

theorem IsPlain.tail {f : List Char} (h : IsPlain (f :: filter)) : IsPlain filter :=
  fun g hg => h g (List.mem_cons_of_mem f hg)

theorem matchesLevels_cons {f t : List Char} (h : f ≠ anyLevel ∧ f ≠ anyRest) :
    matchesLevels (f :: filter) (t :: topic) = true ↔ f = t ∧ matchesLevels filter topic = true := by
  rw [matchesLevels, beq_eq_false_iff_ne.2 h.1, beq_eq_false_iff_ne.2 h.2]
  simp

theorem matchesLevels_iff_eq (h : IsPlain filter) :
    matchesLevels filter topic = true ↔ filter = topic := by
  induction filter generalizing topic with
  | nil => cases topic <;> simp [matchesLevels]
  | cons f filter ih =>
    cases topic with
    | nil => simp [matchesLevels, h.head.2]
    | cons t topic => rw [matchesLevels_cons h.head, ih h.tail, List.cons.injEq]

theorem matchesLevels_append_anyRest_iff (h : IsPlain filter) :
    matchesLevels (filter ++ [anyRest]) topic = true ↔ filter <+: topic := by
  induction filter generalizing topic with
  | nil =>
    rw [List.nil_append]
    cases topic <;> simp [matchesLevels]
  | cons f filter ih =>
    rw [List.cons_append]
    cases topic with
    | nil => simp [matchesLevels, h.head.2]
    | cons t topic => rw [matchesLevels_cons h.head, ih h.tail, List.cons_prefix_cons]

theorem accepts_iff {filter : String} (h : beginsSpecial filter.toList = false) (topic : String) :
    accepts filter topic = true ↔
      matchesLevels (Text.levels filter.toList) (Text.levels topic.toList) = true := by
  unfold accepts
  rw [h, Bool.and_false, Bool.not_false, Bool.true_and]

end Filter

namespace StatusRoot

open Topic.Filter (accepts)

theorem isPlain_levels_base (root : StatusRoot) : Filter.IsPlain (Text.levels root.base.toList) := by
  cases root <;> decide

theorem beginsSpecial_base_append (root : StatusRoot) (rest : List Char) :
    Filter.beginsSpecial (root.base.toList ++ rest) = false := by
  cases root <;> rfl

theorem accepts_base_iff (root : StatusRoot) (topic : String) :
    accepts root.base topic = true ↔ Text.levels root.base.toList = Text.levels topic.toList := by
  have hspecial := root.beginsSpecial_base_append []
  rw [List.append_nil] at hspecial
  rw [Filter.accepts_iff hspecial, Filter.matchesLevels_iff_eq root.isPlain_levels_base]

theorem accepts_below_iff (root : StatusRoot) (topic : String) :
    accepts (root.base ++ "/#") topic = true ↔ isWithin topic root.base = true := by
  have hchars : (root.base ++ "/#").toList = root.base.toList ++ '/' :: Filter.anyRest :=
    String.toList_append
  have hspecial : Filter.beginsSpecial (root.base ++ "/#").toList = false := by
    rw [hchars]
    apply beginsSpecial_base_append
  rw [Filter.accepts_iff hspecial, hchars, Text.levels_append,
    show Text.levels Filter.anyRest = [Filter.anyRest] from rfl,
    Filter.matchesLevels_append_anyRest_iff root.isPlain_levels_base, isWithin_iff_isPrefix]

def ownFilters (root : StatusRoot) : List String :=
  [root.base, root.base ++ "/#"]

theorem exists_accepts_iff (root : StatusRoot) (topic : String) :
    (∃ filter ∈ root.ownFilters, accepts filter topic = true) ↔
      isWithin topic root.base = true := by
  constructor
  . rintro ⟨filter, hfilter, haccepts⟩
    simp only [ownFilters, List.mem_cons, List.not_mem_nil, or_false] at hfilter
    rcases hfilter with rfl | rfl
    . rw [accepts_base_iff] at haccepts
      apply isWithin_iff_isPrefix.2
      exact ⟨[], by rw [haccepts, List.append_nil]⟩
    . exact (accepts_below_iff root topic).1 haccepts
  . intro h
    refine ⟨root.base ++ "/#", ?_, (accepts_below_iff root topic).2 h⟩
    exact List.mem_cons_of_mem _ List.mem_cons_self

theorem mem_filters_iff {filter : String} :
    filter ∈ filters ↔ ∃ root : StatusRoot, filter ∈ root.ownFilters := by
  unfold filters
  rw [List.mem_flatMap]
  constructor
  . rintro ⟨root, _, h⟩
    exact ⟨root, h⟩
  . rintro ⟨root, h⟩
    exact ⟨root, by cases root <;> decide, h⟩

theorem isSome_classify?_iff_subscribed (topic : String) :
    ((classify? topic).isSome = true ↔ ∃ filter ∈ filters, accepts filter topic = true) ∧
      ∀ root segment, classify? topic = some (root, segment) → ∀ other : StatusRoot,
        (∃ filter ∈ other.ownFilters, accepts filter topic = true) ↔ other = root := by
  constructor
  . constructor
    . intro h
      obtain ⟨⟨root, segment⟩, hclassify⟩ := Option.isSome_iff_exists.1 h
      obtain ⟨hwithin, _⟩ := classify?_eq_some_iff.1 hclassify
      obtain ⟨filter, hfilter, haccepts⟩ := (root.exists_accepts_iff topic).2 hwithin
      exact ⟨filter, mem_filters_iff.2 ⟨root, hfilter⟩, haccepts⟩
    . rintro ⟨filter, hfilter, haccepts⟩
      obtain ⟨root, hroot⟩ := mem_filters_iff.1 hfilter
      have hwithin := (root.exists_accepts_iff topic).1 ⟨filter, hroot, haccepts⟩
      rw [classify?_eq_some_iff.2 ⟨hwithin, rfl⟩]
      rfl
  . intro root segment hclassify other
    obtain ⟨hwithin, _⟩ := classify?_eq_some_iff.1 hclassify
    rw [exists_accepts_iff]
    constructor
    . intro hother
      exact eq_of_isWithin hother hwithin
    . rintro rfl
      exact hwithin

theorem subscribed_empty_level :
    (∃ filter ∈ filters, accepts filter "esp/booking/status//AA" = true) ∧
      ¬(∃ filter ∈ status.ownFilters, accepts filter "esp/booking/status//AA" = true) ∧
      ¬∃ filter ∈ filters, accepts filter "esp/statuses/AA" = true := by
  have hclassify : classify? "esp/booking/status//AA" = some (.bookingStatus, some "AA") := by
    decide +kernel
  have hforeign : classify? "esp/statuses/AA" = none := by decide +kernel
  obtain ⟨hsubscribed, hroot⟩ := isSome_classify?_iff_subscribed "esp/booking/status//AA"
  refine ⟨hsubscribed.1 (by rw [hclassify]; rfl), ?_, ?_⟩
  . rw [hroot _ _ hclassify]
    decide
  . rw [← (isSome_classify?_iff_subscribed "esp/statuses/AA").1, hforeign]
    decide

end StatusRoot
end LockFleet.Topic
