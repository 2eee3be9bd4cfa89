import LockFleet.Proofs.Topic
import LockFleet.Proofs.Topic.Within
import Mathlib.Data.List.TakeWhile

/-!
This module contains the shape of the topics that are read as topics of reports. Such a topic is a root,
slashes, and then either nothing or a level that names a device, with anything below it. The topics of
commands are no topics of reports.
-/

namespace LockFleet.Topic

theorem ofAddress_eq_of_ofText? (base : String) {raw : String} {id : DeviceId}
    (h : DeviceId.ofText? raw = some id) :
    ofAddress base (some raw) = ofAddress base (some id.text) := by
  unfold ofAddress
  rw [Option.bind_some, Option.bind_some, DeviceId.normalAddress?_eq_of_ofText? h,
    id.normalAddress?_text]

theorem isWithin_ofAddress {base : String} (hbase : base.toList.getLast? ≠ some '/')
    (address : Option String) : isWithin (ofAddress base address) base = true := by
  rw [isWithin_iff]
  unfold ofAddress
  split
  . exact Or.inl rfl
  . next digits _ =>
    right
    exact ⟨digits.toList, by simp [hbase]⟩

theorem isWithin_trans {a b c : String} (hab : isWithin a b = true) (hbc : isWithin b c = true) :
    isWithin a c = true := by
  rw [isWithin_iff_isPrefix] at hab hbc ⊢
  exact hbc.trans hab

def EndsLevel (tail : List Char) : Prop :=
  tail = [] ∨ ∃ rest, tail = '/' :: rest

theorem endsLevel_dropWhile (chars : List Char) : EndsLevel (chars.dropWhile (· != '/')) := by
  have hhead := List.head?_dropWhile_not (· != '/') chars
  cases htail : chars.dropWhile (· != '/') with
  | nil => exact Or.inl rfl
  | cons c rest =>
    rw [htail] at hhead
    have hc : c = '/' := by simpa using hhead
    exact Or.inr ⟨rest, by rw [hc]⟩

theorem eq_slashes_or_exists_level (chars : List Char) :
    (∃ n, chars = List.replicate n '/') ∨
      ∃ n level tail, chars = List.replicate n '/' ++ (level ++ tail) ∧
        level ≠ [] ∧ '/' ∉ level ∧ EndsLevel tail := by
  induction chars with
  | nil => exact Or.inl ⟨0, rfl⟩
  | cons c rest ih =>
    by_cases hc : c = '/'
    . subst hc
      rcases ih with ⟨n, rfl⟩ | ⟨n, level, tail, rfl, hlevel⟩
      . exact Or.inl ⟨n + 1, rfl⟩
      . exact Or.inr ⟨n + 1, level, tail, rfl, hlevel⟩
    . right
      refine ⟨0, (c :: rest).takeWhile (· != '/'), (c :: rest).dropWhile (· != '/'), ?_, ?_, ?_,
        endsLevel_dropWhile _⟩
      . rw [List.takeWhile_append_dropWhile]
        rfl
      . simp [hc]
      . intro hmem
        simpa using List.mem_takeWhile_imp hmem

theorem dropWhile_slashes (n : Nat) (chars : List Char) :
    (List.replicate n '/' ++ chars).dropWhile (· == '/') = chars.dropWhile (· == '/') := by
  apply List.dropWhile_append_of_pos
  intro c hc
  rw [List.eq_of_mem_replicate hc]
  rfl

theorem takeWhile_level {level tail : List Char} (hlevel : '/' ∉ level) (htail : EndsLevel tail) :
    (level ++ tail).takeWhile (· != '/') = level := by
  have hne : ∀ c ∈ level, (c != '/') = true := by
    intro c hc
    rw [bne_iff_ne]
    rintro rfl
    exact hlevel hc
  rw [List.takeWhile_append_of_pos hne]
  rcases htail with rfl | ⟨rest, rfl⟩ <;> simp

namespace StatusRoot

def IsBare (root : StatusRoot) (topic : String) : Prop :=
  ∃ n, topic.toList = root.base.toList ++ List.replicate n '/'

def Names (root : StatusRoot) (level topic : String) : Prop :=
  level ≠ "" ∧ '/' ∉ level.toList ∧ ∃ n tail, EndsLevel tail ∧
    topic.toList = root.base.toList ++ (List.replicate (n + 1) '/' ++ (level.toList ++ tail))

variable {root : StatusRoot} {level topic : String}

theorem IsBare.isWithin (h : root.IsBare topic) : isWithin topic root.base = true := by
  obtain ⟨n, hn⟩ := h
  rw [isWithin_iff, hn]
  cases n with
  | zero => exact Or.inl (List.append_nil _)
  | succ n => exact Or.inr ⟨List.replicate n '/', rfl⟩

theorem Names.isWithin (h : root.Names level topic) : isWithin topic root.base = true := by
  obtain ⟨_, _, n, tail, _, htopic⟩ := h
  rw [isWithin_iff, htopic]
  exact Or.inr ⟨List.replicate n '/' ++ (level.toList ++ tail), rfl⟩

theorem isBare_or_names (h : Topic.isWithin topic root.base = true) :
    root.IsBare topic ∨ ∃ level, root.Names level topic := by
  rcases isWithin_iff.1 h with htopic | ⟨rest, htopic⟩
  . exact Or.inl ⟨0, by rw [htopic, List.replicate_zero, List.append_nil]⟩
  . rcases eq_slashes_or_exists_level rest with ⟨n, rfl⟩ | ⟨n, level, tail, rfl, hne, hslash, htail⟩
    . exact Or.inl ⟨n + 1, htopic⟩
    . right
      refine ⟨String.ofList level, ?_, ?_, n, tail, htail, ?_⟩
      . simpa using hne
      . rwa [String.toList_ofList]
      . rw [htopic, String.toList_ofList]
        rfl

theorem IsBare.segment? (h : root.IsBare topic) : root.segment? topic = none := by
  obtain ⟨n, hn⟩ := h
  have hlevel : (List.replicate n '/').dropWhile (· == '/') = [] := by
    rw [List.dropWhile_replicate]
    rfl
  unfold StatusRoot.segment?
  dsimp
  rw [hn, List.drop_left, hlevel]
  rfl

theorem Names.segment? (h : root.Names level topic) : root.segment? topic = some level := by
  obtain ⟨hne, hslash, n, tail, htail, htopic⟩ := h
  have hne' : level.toList ≠ [] := fun hnil => hne (String.toList_eq_nil_iff.1 hnil)
  -- The level begins with a character that is no slash, so dropping slashes stops in front of it.
  have hdrop : (level.toList ++ tail).dropWhile (· == '/') = level.toList ++ tail := by
    obtain ⟨c, rest, hc⟩ := List.exists_cons_of_ne_nil hne'
    rw [hc] at hslash ⊢
    rw [List.cons_append, List.dropWhile_cons_of_neg]
    rw [beq_iff_eq]
    rintro rfl
    exact hslash List.mem_cons_self
  unfold StatusRoot.segment?
  dsimp
  rw [htopic, List.drop_left, dropWhile_slashes, hdrop, takeWhile_level hslash htail, if_neg hne',
    String.ofList_toList]

theorem classify?_eq_some_iff {segment : Option String} :
    classify? topic = some (root, segment) ↔
      Topic.isWithin topic root.base = true ∧ root.segment? topic = segment := by
  unfold classify?
  constructor
  . intro h
    obtain ⟨found, _, hfound⟩ := List.exists_of_findSome?_eq_some h
    split at hfound
    . next hwithin =>
      cases hfound
      exact ⟨hwithin, rfl⟩
    . cases hfound
  . rintro ⟨hwithin, rfl⟩
    cases h : all.findSome? fun r =>
        if Topic.isWithin topic r.base then some (r, r.segment? topic) else none with
    | none =>
      have hroot := List.findSome?_eq_none_iff.1 h root (by cases root <;> decide)
      rw [if_pos hwithin] at hroot
      cases hroot
    | some found =>
      -- Whichever root is found first, it is the only one that fits.
      obtain ⟨r, _, hr⟩ := List.exists_of_findSome?_eq_some h
      split at hr
      . next hwithin' =>
        cases hr
        rw [eq_of_isWithin hwithin hwithin']
      . cases hr

theorem classify?_eq_none_iff :
    classify? topic = none ↔ ∀ root : StatusRoot, Topic.isWithin topic root.base = false := by
  constructor
  . intro h root
    rw [Bool.eq_false_iff]
    intro hwithin
    rw [classify?_eq_some_iff.2 ⟨hwithin, rfl⟩] at h
    cases h
  . intro h
    unfold classify?
    rw [List.findSome?_eq_none_iff]
    intro root _
    rw [h root]
    rfl

theorem classify?_eq_some_some_iff :
    classify? topic = some (root, some level) ↔ root.Names level topic := by
  rw [classify?_eq_some_iff]
  constructor
  . rintro ⟨hwithin, hsegment⟩
    rcases isBare_or_names hwithin with hbare | ⟨named, hnames⟩
    . rw [hbare.segment?] at hsegment
      cases hsegment
    . rw [hnames.segment?] at hsegment
      cases hsegment
      exact hnames
  . intro h
    exact ⟨h.isWithin, h.segment?⟩

theorem classify?_eq_some_none_iff :
    classify? topic = some (root, none) ↔ root.IsBare topic := by
  rw [classify?_eq_some_iff]
  constructor
  . rintro ⟨hwithin, hsegment⟩
    rcases isBare_or_names hwithin with hbare | ⟨named, hnames⟩
    . exact hbare
    . rw [hnames.segment?] at hsegment
      cases hsegment
  . intro h
    exact ⟨h.isWithin, h.segment?⟩

theorem getLast?_base (root : StatusRoot) : root.base.toList.getLast? ≠ some '/' := by
  cases root <;> decide

theorem classify?_topic (root : StatusRoot) {raw : String} {id : DeviceId}
    (h : DeviceId.ofText? raw = some id) :
    classify? (root.topic (some raw)) = some (root, some id.text) := by
  rw [classify?_eq_some_some_iff]
  refine ⟨id.nonempty, id.slash_not_mem_text, 0, [], Or.inl rfl, ?_⟩
  unfold StatusRoot.topic
  rw [ofAddress_eq_of_ofText? root.base h, toList_ofAddress_text root.getLast?_base,
    List.append_nil]
  rfl

end StatusRoot

theorem CommandRoot.isWithin_plain (root : CommandRoot) :
    isWithin root.base CommandRoot.plain.base = true := by
  cases root <;> decide

theorem CommandRoot.not_isWithin_both {topic : String} (root : StatusRoot)
    (h : isWithin topic CommandRoot.plain.base = true) : isWithin topic root.base = false := by
  rw [Bool.eq_false_iff]
  intro h'
  rw [isWithin_iff_isPrefix] at h h'
  have hcomparable := List.prefix_or_prefix_of_prefix h h'
  rw [← List.isPrefixOf_iff_prefix, ← List.isPrefixOf_iff_prefix] at hcomparable
  revert hcomparable
  cases root <;> decide

theorem CommandRoot.classify?_topic (root : CommandRoot) (address : Option String) :
    StatusRoot.classify? (root.topic address) = none := by
  rw [StatusRoot.classify?_eq_none_iff]
  intro reports
  apply not_isWithin_both
  exact isWithin_trans (isWithin_ofAddress root.getLast?_base address) root.isWithin_plain

end LockFleet.Topic
