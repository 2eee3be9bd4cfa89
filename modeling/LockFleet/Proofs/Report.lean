import Mathlib.Data.List.Basic
import LockFleet.Registry.Basic

/-!
This module contains when a payload is read as a message: the text of the message is the payload without
the blanks around it, and a number in it is one. So what is recorded of a message is what was received.
-/

namespace LockFleet

open Text (isNumeral trim)

theorem append_ne_of_not_isPrefixOf {start text : String} (rest : String)
    (h : start.toList.isPrefixOf text.toList = false) : start ++ rest ≠ text := by
  rintro rfl
  rw [String.toList_append, List.isPrefixOf_iff_prefix.2 (List.prefix_append ..)] at h
  cases h

theorem LifecycleState.ofLabel?_append_eq_none {start : String} (rest : String)
    (h : ∀ s : LifecycleState, start.toList.isPrefixOf s.label.toList = false) :
    LifecycleState.ofLabel? (start ++ rest) = none := by
  rw [Option.eq_none_iff_forall_ne_some]
  intro s hs
  exact append_ne_of_not_isPrefixOf rest (h s) (label_eq_of_ofLabel? hs).symm

namespace StatusMessage

def IsProper : StatusMessage → Prop
  | stateChanged digits => isNumeral digits.toList = true
  | currentState digits => isNumeral digits.toList = true
  | _ => True

theorem numberAfter?_eq_some_iff {start : String} {text : List Char} {digits : String} :
    numberAfter? start text = some digits ↔
      (start ++ digits).toList = text ∧ isNumeral digits.toList = true := by
  rw [String.toList_append]
  unfold numberAfter?
  constructor
  . intro h
    split at h
    . next rest hrest =>
      split at h
      . next hnumeral =>
        cases h
        rw [String.toList_ofList]
        exact ⟨List.isPrefixOf?_eq_some_iff_append_eq.1 hrest, hnumeral⟩
      . cases h
    . cases h
  . rintro ⟨htext, hnumeral⟩
    rw [List.isPrefixOf?_eq_some_iff_append_eq.2 htext]
    dsimp only
    rw [if_pos hnumeral, String.ofList_toList]

theorem numberAfter?_append_eq_none {start other : String} (digits : String)
    (h : ∀ rest, start.toList.isPrefixOf (other.toList ++ rest) = false) :
    numberAfter? start (other ++ digits).toList = none := by
  rw [Option.eq_none_iff_forall_ne_some]
  intro found hfound
  have hstart : start.toList <+: other.toList ++ digits.toList := by
    rw [← String.toList_append, ← (numberAfter?_eq_some_iff.1 hfound).1, String.toList_append]
    apply List.prefix_append
  rw [← List.isPrefixOf_iff_prefix, h] at hstart
  cases hstart

theorem text_ne_onlineText {m : StatusMessage} (h : m ≠ online) : m.text ≠ onlineText := by
  cases m with
  | online => exact absurd rfl h
  | lifecycle s => cases s <;> decide
  | stateChanged digits => exact append_ne_of_not_isPrefixOf digits (by decide)
  | currentState digits => exact append_ne_of_not_isPrefixOf digits (by decide)

theorem ofLabel?_text_eq_none {m : StatusMessage} (h : ∀ s, m ≠ lifecycle s) :
    LifecycleState.ofLabel? m.text = none := by
  cases m with
  | online => decide
  | lifecycle s => exact absurd rfl (h s)
  | stateChanged digits =>
    apply LifecycleState.ofLabel?_append_eq_none
    intro s
    cases s <;> decide
  | currentState digits =>
    apply LifecycleState.ofLabel?_append_eq_none
    intro s
    cases s <;> decide

theorem isProper_and_text_of_parse {raw : String} {m : StatusMessage} (h : parse raw = .ok m) :
    m.IsProper ∧ m.text.toList = trim raw.toList := by
  unfold parse at h
  dsimp only at h
  split at h
  . next honline =>
    cases h
    refine ⟨trivial, ?_⟩
    exact (congrArg String.toList honline.symm).trans String.toList_ofList
  . split at h
    . next s hlabel =>
      cases h
      refine ⟨trivial, ?_⟩
      have htext := LifecycleState.label_eq_of_ofLabel? hlabel
      exact (congrArg String.toList htext).trans String.toList_ofList
    . split at h
      . next digits hchanged =>
        cases h
        exact (numberAfter?_eq_some_iff.1 hchanged).symm
      . split at h
        . next digits hcurrent =>
          cases h
          exact (numberAfter?_eq_some_iff.1 hcurrent).symm
        . cases h

theorem parse_eq_ok {raw : String} {m : StatusMessage} (hproper : m.IsProper)
    (htext : m.text.toList = trim raw.toList) : parse raw = .ok m := by
  unfold parse
  dsimp only
  rw [← htext, String.ofList_toList]
  -- The forms are tried in order, so each case also says why those before its own do not fit.
  cases m with
  | online => rfl
  | lifecycle s =>
    have hlabel : LifecycleState.ofLabel? (lifecycle s).text = some s :=
      LifecycleState.ofLabel?_label s
    rw [if_neg (text_ne_onlineText (by simp)), hlabel]
  | stateChanged digits =>
    have hnumber : numberAfter? changedPrefix (stateChanged digits).text.toList = some digits :=
      numberAfter?_eq_some_iff.2 ⟨rfl, hproper⟩
    rw [if_neg (text_ne_onlineText (by simp)), ofLabel?_text_eq_none (by simp)]
    dsimp only
    rw [hnumber]
  | currentState digits =>
    have hother : numberAfter? changedPrefix (currentState digits).text.toList = none := by
      apply numberAfter?_append_eq_none
      intro rest
      rfl
    have hnumber : numberAfter? currentPrefix (currentState digits).text.toList = some digits :=
      numberAfter?_eq_some_iff.2 ⟨rfl, hproper⟩
    rw [if_neg (text_ne_onlineText (by simp)), ofLabel?_text_eq_none (by simp)]
    dsimp only
    rw [hother, hnumber]

theorem parse_eq_ok_iff {raw : String} {m : StatusMessage} :
    parse raw = .ok m ↔ m.IsProper ∧ m.text.toList = trim raw.toList := by
  constructor
  . exact isProper_and_text_of_parse
  . rintro ⟨hproper, htext⟩
    exact parse_eq_ok hproper htext

theorem text_of_parse {raw : String} {m : StatusMessage} (h : parse raw = .ok m) :
    m.text = String.ofList (trim raw.toList) := by
  rw [← (parse_eq_ok_iff.1 h).2, String.ofList_toList]

theorem eq_single_of_parse_eq_error {raw : String} {e : ValidationError}
    (h : parse raw = .error e) :
    e = .single (.notOneOf statusPath expected (String.ofList (trim raw.toList))) := by
  unfold parse at h
  dsimp only at h
  split at h
  . cases h
  . split at h
    . cases h
    . split at h
      . cases h
      . split at h
        . cases h
        . cases h
          rfl

end StatusMessage

theorem BookingMessage.text_of_parse {raw : String} {m : BookingMessage} (h : parse raw = .ok m) :
    m.text = String.ofList (trim raw.toList) := by
  unfold parse at h
  dsimp only at h
  split at h
  . next hfound =>
    cases h
    simpa using List.find?_some hfound
  . cases h

theorem MaintenanceMessage.text_of_parse {raw : String} {m : MaintenanceMessage}
    (h : parse raw = .ok m) : m.text = String.ofList (trim raw.toList) := by
  unfold parse at h
  dsimp only at h
  split at h
  . next hfound =>
    cases h
    simpa using List.find?_some hfound
  . cases h

theorem exists_eq_ok_of_map_eq_ok {ε α β : Type} {f : α → β} {x : Except ε α} {b : β}
    (h : x.map f = .ok b) : ∃ a, x = .ok a ∧ f a = b := by
  cases x with
  | error e => cases h
  | ok a => exact ⟨a, rfl, Except.ok.inj h⟩

theorem Registry.message_of_message? {root : Topic.StatusRoot} {payload : String}
    {m : DeviceMessage} (h : message? root payload = some (.ok m)) :
    m.report.message = String.ofList (trim payload.toList) := by
  cases root with
  | logs => cases h
  | status =>
    obtain ⟨m, hm, rfl⟩ := exists_eq_ok_of_map_eq_ok (Option.some.inj h)
    exact StatusMessage.text_of_parse hm
  | bookingStatus =>
    obtain ⟨m, hm, rfl⟩ := exists_eq_ok_of_map_eq_ok (Option.some.inj h)
    exact BookingMessage.text_of_parse hm
  | maintenanceStatus =>
    obtain ⟨m, hm, rfl⟩ := exists_eq_ok_of_map_eq_ok (Option.some.inj h)
    exact MaintenanceMessage.text_of_parse hm

end LockFleet
