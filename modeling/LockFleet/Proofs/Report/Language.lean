import LockFleet.Proofs.Report
import LockFleet.Proofs.Text.Blank

/-!
This module contains the language of the topic of states: the texts that are read as a message, and
the proof that a message is read from its own text, whatever blanks stand around it.
-/

namespace LockFleet

namespace Text

def IsDigits (text : String) : Prop :=
  text ≠ "" ∧ ∀ c ∈ text.toList, '0' ≤ c ∧ c ≤ '9'

theorem isNumeral_eq_true_iff {digits : String} :
    isNumeral digits.toList = true ↔ IsDigits digits := by
  unfold isNumeral IsDigits
  rw [Bool.and_eq_true, Bool.not_eq_true', List.isEmpty_eq_false_iff, List.all_eq_true]
  apply and_congr
  . exact not_congr String.toList_eq_nil_iff
  . apply forall₂_congr
    intro c _
    unfold Char.isDigit
    rw [Bool.and_eq_true, decide_eq_true_eq, decide_eq_true_eq]
    exact Iff.rfl

end Text

namespace StatusMessage

open Text (AreBlank IsDigits Trims isNumeral_eq_true_iff)

inductive IsWording : String → Prop where
  | online : IsWording "ESP32 online"
  | label (s : LifecycleState) : IsWording s.label
  | changed {digits : String} (h : IsDigits digits) : IsWording ("State changed to " ++ digits)
  | current {digits : String} (h : IsDigits digits) : IsWording ("Current state: " ++ digits)

theorem isWording_iff {text : String} :
    IsWording text ↔ ∃ m : StatusMessage, m.IsProper ∧ m.text = text := by
  constructor
  . intro h
    cases h with
    | online => exact ⟨online, trivial, rfl⟩
    | label s => exact ⟨lifecycle s, trivial, rfl⟩
    | changed h => exact ⟨stateChanged _, isNumeral_eq_true_iff.2 h, rfl⟩
    | current h => exact ⟨currentState _, isNumeral_eq_true_iff.2 h, rfl⟩
  . rintro ⟨m, hproper, rfl⟩
    cases m with
    | online => exact .online
    | lifecycle s => exact .label s
    | stateChanged digits => exact .changed (isNumeral_eq_true_iff.1 hproper)
    | currentState digits => exact .current (isNumeral_eq_true_iff.1 hproper)

theorem trims_append {start digits : String} {first : Char} {rest : List Char}
    (hstart : start.toList = first :: rest) (hfirst : Text.isBlank first = false)
    (h : IsDigits digits) : Trims (start ++ digits).toList (start ++ digits).toList := by
  obtain ⟨hne, hdigits⟩ := h
  have hne' : digits.toList ≠ [] := fun hnil => hne (String.toList_eq_nil_iff.1 hnil)
  rw [String.toList_append]
  constructor
  . exact ⟨[], [], by simp [AreBlank], by simp [AreBlank], by simp⟩
  . rw [hstart, List.cons_append, List.head?_cons]
    rintro c ⟨⟩
    exact hfirst
  . rw [List.getLast?_append_of_ne_nil _ hne']
    intro c hc
    obtain ⟨hlower, hupper⟩ := hdigits c (List.mem_of_getLast? hc)
    exact Text.isBlank_eq_false_of_digit hlower hupper

theorem trims_text {m : StatusMessage} (h : m.IsProper) : Trims m.text.toList m.text.toList := by
  cases m with
  | online => exact Text.trims_iff.2 (by decide)
  | lifecycle s => cases s <;> exact Text.trims_iff.2 (by decide)
  | stateChanged digits => exact trims_append rfl (by decide) (isNumeral_eq_true_iff.1 h)
  | currentState digits => exact trims_append rfl (by decide) (isNumeral_eq_true_iff.1 h)

theorem parse_eq_ok_iff_of_trims {raw text : String} {m : StatusMessage}
    (h : Trims raw.toList text.toList) : parse raw = .ok m ↔ m.IsProper ∧ m.text = text := by
  rw [parse_eq_ok_iff, h.trim_eq, String.toList_inj]

theorem parse_text {m : StatusMessage} (h : m.IsProper) : parse m.text = .ok m :=
  (parse_eq_ok_iff_of_trims (trims_text h)).2 ⟨h, rfl⟩

theorem received_of_parse_eq_error {raw text : String} {e : ValidationError}
    (h : Trims raw.toList text.toList) (herror : parse raw = .error e) :
    ∃ i, e.issues = [i] ∧ i.received = .string text := by
  refine ⟨_, congrArg ValidationError.issues (eq_single_of_parse_eq_error herror), ?_⟩
  rw [h.trim_eq, String.ofList_toList]
  rfl

theorem parse_padded {m : StatusMessage} (h : m.IsProper) {before after : String}
    (hbefore : AreBlank before.toList) (hafter : AreBlank after.toList) :
    parse (before ++ m.text ++ after) = .ok m := by
  have hpadded : Trims (before ++ m.text ++ after).toList m.text.toList := by
    rw [String.toList_append, String.toList_append, List.append_assoc]
    exact (trims_text h).pad hbefore hafter
  exact (parse_eq_ok_iff_of_trims hpadded).2 ⟨h, rfl⟩

theorem reads_exactly_wordings :
    (∀ raw : String, ∃ text : String, Trims raw.toList text.toList ∧
      ((∃ m, parse raw = .ok m) ↔ IsWording text) ∧
      (∀ m, parse raw = .ok m → m.text = text) ∧
      ∀ e, parse raw = .error e → ∃ i, e.issues = [i] ∧ i.received = .string text) ∧
    ∀ (raw : String) (m : StatusMessage), parse raw = .ok m →
      ∀ before after : String, AreBlank before.toList → AreBlank after.toList →
        parse (before ++ m.text ++ after) = .ok m := by
  constructor
  . intro raw
    have htrims : Trims raw.toList (String.ofList (Text.trim raw.toList)).toList := by
      rw [String.toList_ofList]
      exact Text.trims_trim raw.toList
    refine ⟨_, htrims, ?_, ?_, ?_⟩
    . rw [isWording_iff]
      exact exists_congr fun m => parse_eq_ok_iff_of_trims htrims
    . intro m hm
      exact ((parse_eq_ok_iff_of_trims htrims).1 hm).2
    . intro e he
      exact received_of_parse_eq_error htrims he
  . intro raw m hm before after hbefore hafter
    exact parse_padded (parse_eq_ok_iff.1 hm).1 hbefore hafter

theorem reads_exactly_wordings_padded :
    parse "\u2003Current state: 007\r\n" = .ok (currentState "007") ∧
      AreBlank "\u3000\t".toList ∧ AreBlank "\u0085".toList ∧
      parse ("\u3000\t" ++ (currentState "007").text ++ "\u0085") = .ok (currentState "007") ∧
      ∃ e i, parse " State changed to \u0663" = .error e ∧ e.issues = [i] ∧
        i.received = .string "State changed to \u0663" := by
  have hread : parse "\u2003Current state: 007\r\n" = .ok (currentState "007") :=
    parse_eq_ok_iff.2 ⟨rfl, by decide +kernel⟩
  have hbefore : AreBlank "\u3000\t".toList := List.all_eq_true.1 (by decide)
  have hafter : AreBlank "\u0085".toList := List.all_eq_true.1 (by decide)
  obtain ⟨hlanguage, hpadded⟩ := reads_exactly_wordings
  obtain ⟨text, htrims, _, _, hrefused⟩ := hlanguage " State changed to \u0663"
  have htext : text = "State changed to \u0663" := by
    apply String.toList_injective
    rw [← htrims.trim_eq]
    decide +kernel
  have herror : ∃ e, parse " State changed to \u0663" = .error e := ⟨_, rfl⟩
  obtain ⟨e, he⟩ := herror
  obtain ⟨i, hissues, hreceived⟩ := hrefused e he
  rw [htext] at hreceived
  exact ⟨hread, hbefore, hafter, hpadded _ _ hread _ _ hbefore hafter, e, i, he, hissues, hreceived⟩

end StatusMessage
end LockFleet
