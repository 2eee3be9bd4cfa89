/-!
This module contains the cutting of a text at its slashes, as in topics and paths.
-/

namespace LockFleet.Text

def levels : List Char → List (List Char)
  | [] => [[]]
  | c :: rest =>
    if c = '/' then [] :: levels rest
    else
      match levels rest with
      | [] => [[c]]
      | level :: more => (c :: level) :: more

@[simp]
theorem levels_nil : levels [] = [[]] :=
  rfl

@[simp]
theorem levels_slash (rest : List Char) : levels ('/' :: rest) = [] :: levels rest := by
  simp [levels]

theorem levels_ne_nil (chars : List Char) : levels chars ≠ [] := by
  unfold levels
  split
  . simp
  . split
    . simp
    . split <;> simp

theorem levels_cons_of_ne {c : Char} (h : c ≠ '/') {chars level : List Char}
    {more : List (List Char)} (hchars : levels chars = level :: more) :
    levels (c :: chars) = (c :: level) :: more := by
  rw [levels, if_neg h, hchars]

theorem levels_append (before after : List Char) :
    levels (before ++ '/' :: after) = levels before ++ levels after := by
  induction before with
  | nil => simp
  | cons c before ih =>
    rw [List.cons_append]
    by_cases hc : c = '/'
    . rw [hc, levels_slash, levels_slash, ih, List.cons_append]
    . obtain ⟨level, more, hbefore⟩ := List.exists_cons_of_ne_nil (levels_ne_nil before)
      rw [hbefore, List.cons_append] at ih
      rw [levels_cons_of_ne hc ih, levels_cons_of_ne hc hbefore, List.cons_append]

theorem levels_of_not_mem {level : List Char} (h : '/' ∉ level) : levels level = [level] := by
  induction level with
  | nil => rfl
  | cons c level ih =>
    have hc : c ≠ '/' := by
      rintro rfl
      exact h List.mem_cons_self
    have hlevel : '/' ∉ level := fun hm => h (List.mem_cons_of_mem c hm)
    exact levels_cons_of_ne hc (ih hlevel)

theorem levels_append_slash {level : List Char} (h : '/' ∉ level) (rest : List Char) :
    levels (level ++ '/' :: rest) = level :: levels rest := by
  rw [levels_append, levels_of_not_mem h, List.singleton_append]

end LockFleet.Text
