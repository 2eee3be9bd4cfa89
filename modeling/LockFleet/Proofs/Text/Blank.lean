import LockFleet.Text.Blank
import Mathlib.Data.List.DropRight
import Mathlib.Data.List.TakeWhile

/-!
This module contains what is left of a text once the blanks at both ends are removed: the part between two
runs of blanks that neither begins nor ends with a blank. There is only one such part.
-/

namespace LockFleet.Text

def AreBlank (chars : List Char) : Prop :=
  ∀ c ∈ chars, isBlank c = true

structure Trims (raw text : List Char) : Prop where
  padded : ∃ before after, AreBlank before ∧ AreBlank after ∧ raw = before ++ (text ++ after)
  head : ∀ c ∈ text.head?, isBlank c = false
  last : ∀ c ∈ text.getLast?, isBlank c = false

variable {raw text before after : List Char}

theorem isBlank_eq_false_of_digit {c : Char} (hlower : '0' ≤ c) (hupper : c ≤ '9') :
    isBlank c = false := by
  have hlower : 0x30 ≤ c.toNat := hlower
  have hupper : c.toNat ≤ 0x39 := hupper
  simp only [isBlank, Bool.or_eq_false_iff, Bool.and_eq_false_imp, decide_eq_true_eq,
    decide_eq_false_iff_not, beq_eq_false_iff_ne]
  omega

theorem trimStart_append (h : AreBlank before) (text : List Char) :
    trimStart (before ++ text) = trimStart text :=
  List.dropWhile_append_of_pos h

theorem trimEnd_append (text : List Char) (h : AreBlank after) :
    trimEnd (text ++ after) = trimEnd text := by
  have hreverse : ∀ c ∈ after.reverse, isBlank c = true := by
    intro c hc
    exact h c (List.mem_reverse.1 hc)
  unfold trimEnd
  rw [List.reverse_append, List.dropWhile_append_of_pos hreverse]

theorem trimStart_cons {c : Char} (h : isBlank c = false) (rest : List Char) :
    trimStart (c :: rest) = c :: rest :=
  List.dropWhile_cons_of_neg (by rw [h]; exact Bool.false_ne_true)

theorem trimStart_append_of_head (h : ∀ c ∈ text.head?, isBlank c = false) (hne : text ≠ [])
    (rest : List Char) : trimStart (text ++ rest) = text ++ rest := by
  obtain ⟨c, text, rfl⟩ := List.exists_cons_of_ne_nil hne
  exact trimStart_cons (h c rfl) (text ++ rest)

theorem trimEnd_eq_self (h : ∀ c ∈ text.getLast?, isBlank c = false) : trimEnd text = text := by
  change text.rdropWhile isBlank = text
  rw [List.rdropWhile_eq_self_iff]
  intro hne hlast
  rw [h _ (List.getLast?_eq_some_getLast hne)] at hlast
  cases hlast

theorem Trims.trim_eq (h : Trims raw text) : trim raw = text := by
  obtain ⟨before, after, hbefore, hafter, rfl⟩ := h.padded
  unfold trim
  rw [trimStart_append hbefore]
  by_cases hne : text = []
  . subst hne
    have hnil : trimStart ([] ++ after) = [] := by
      rw [List.nil_append, ← List.append_nil after, trimStart_append hafter]
      rfl
    rw [hnil]
    rfl
  . rw [trimStart_append_of_head h.head hne, trimEnd_append text hafter, trimEnd_eq_self h.last]

theorem trims_trim (raw : List Char) : Trims raw (trim raw) := by
  have heq : trim raw = (raw.dropWhile isBlank).rdropWhile isBlank := rfl
  rw [heq]
  constructor
  . refine ⟨raw.takeWhile isBlank, (raw.dropWhile isBlank).rtakeWhile isBlank, ?_, ?_, ?_⟩
    . intro c
      exact List.mem_takeWhile_imp
    . intro c
      exact List.mem_rtakeWhile_imp
    . rw [List.rdropWhile_append_rtakeWhile, List.takeWhile_append_dropWhile]
  . intro c hc
    -- What is left begins as it did before the blanks at the end were removed.
    obtain ⟨after, hafter⟩ := List.rdropWhile_prefix isBlank (raw.dropWhile isBlank)
    have hhead := List.head?_dropWhile_not isBlank raw
    rw [← hafter, List.head?_append_of_ne_nil, Option.mem_def.1 hc] at hhead
    . exact hhead
    . intro hnil
      rw [hnil] at hc
      cases hc
  . intro c hc
    obtain ⟨hne, rfl⟩ := List.mem_getLast?_eq_getLast hc
    simpa using List.rdropWhile_last_not isBlank _ hne

theorem Trims.pad (h : Trims raw text) (hbefore : AreBlank before) (hafter : AreBlank after) :
    Trims (before ++ (text ++ after)) text :=
  ⟨⟨before, after, hbefore, hafter, rfl⟩, h.head, h.last⟩

theorem trims_iff : Trims raw text ↔ trim raw = text := by
  constructor
  . exact Trims.trim_eq
  . rintro rfl
    exact trims_trim raw

theorem trim_eq_nil_iff : trim raw = [] ↔ AreBlank raw := by
  rw [← trims_iff]
  constructor
  . intro h
    obtain ⟨before, after, hbefore, hafter, rfl⟩ := h.padded
    intro c hc
    rcases List.mem_append.1 hc with hc | hc
    . exact hbefore c hc
    . exact hafter c hc
  . intro h
    exact ⟨⟨raw, [], h, by simp [AreBlank], by simp⟩, by simp, by simp⟩

end LockFleet.Text
