import LockFleet.Command
import LockFleet.Proofs.Device
import LockFleet.Text.Levels
import Mathlib.Data.List.Basic

/-!
This module contains what a topic tells of the device it was made for. The address is the last level of
the topic, so topics of different devices differ, whatever their roots are.
-/

namespace LockFleet.Topic

theorem eq_of_append_slash_eq {a b x y : List Char} (hx : '/' ∉ x) (hy : '/' ∉ y)
    (h : a ++ '/' :: x = b ++ '/' :: y) : a = b ∧ x = y := by
  have hreverse := congrArg (fun chars => Text.levels chars.reverse) h
  simp only [List.reverse_append, List.reverse_cons, List.append_assoc, List.singleton_append]
    at hreverse
  rw [Text.levels_append_slash (by simpa using hx), Text.levels_append_slash (by simpa using hy)]
    at hreverse
  have hlast : x = y := List.reverse_inj.1 (List.cons.inj hreverse).1
  subst hlast
  exact ⟨List.append_cancel_right h, rfl⟩

theorem toList_ofAddress_text {base : String} (hbase : base.toList.getLast? ≠ some '/')
    (id : DeviceId) :
    (ofAddress base (some id.text)).toList = base.toList ++ '/' :: id.text.toList := by
  unfold ofAddress
  rw [Option.bind_some, id.normalAddress?_text]
  simp [hbase]

namespace CommandRoot

variable {root root' : CommandRoot}

theorem getLast?_base (root : CommandRoot) : root.base.toList.getLast? ≠ some '/' := by
  cases root <;> decide

theorem any_isAddressDigit_getLast?_base (root : CommandRoot) :
    root.base.toList.getLast?.any isAddressDigit = false := by
  cases root <;> decide

theorem base_injective (h : root.base = root'.base) : root = root' := by
  revert h
  cases root <;> cases root' <;> decide

theorem topic_text_inj {id id' : DeviceId} :
    root.topic (some id.text) = root'.topic (some id'.text) ↔ root = root' ∧ id = id' := by
  constructor
  . intro h
    have hchars := congrArg String.toList h
    unfold topic at hchars
    rw [toList_ofAddress_text root.getLast?_base, toList_ofAddress_text root'.getLast?_base]
      at hchars
    obtain ⟨hbase, htext⟩ :=
      eq_of_append_slash_eq id.slash_not_mem_text id'.slash_not_mem_text hchars
    exact ⟨base_injective (String.toList_injective hbase),
      DeviceId.ext (String.toList_injective htext)⟩
  . rintro ⟨rfl, rfl⟩
    rfl

theorem topic_text_ne_base (root root' : CommandRoot) (id : DeviceId) :
    root.topic (some id.text) ≠ root'.base := by
  intro h
  have hchars := congrArg String.toList h
  unfold topic at hchars
  rw [toList_ofAddress_text root.getLast?_base] at hchars
  -- A topic with an address ends with a digit of the address, and no root does.
  have hbase := root'.any_isAddressDigit_getLast?_base
  rw [← hchars, List.getLast?_append_cons, List.getLast?_cons_of_ne_nil id.toList_text_ne_nil,
    List.getLast?_eq_some_getLast id.toList_text_ne_nil, Option.any_some,
    id.normal _ (List.getLast_mem id.toList_text_ne_nil)] at hbase
  cases hbase

theorem topic_map_text_inj {device device' : Option DeviceId} :
    root.topic (device.map DeviceId.text) = root'.topic (device'.map DeviceId.text) ↔
      root = root' ∧ device = device' := by
  cases device with
  | none =>
    cases device' with
    | none =>
      constructor
      . intro h
        exact ⟨base_injective h, rfl⟩
      . rintro ⟨rfl, _⟩
        rfl
    | some id' =>
      apply iff_of_false
      . exact (topic_text_ne_base root' root id').symm
      . simp
  | some id =>
    cases device' with
    | none =>
      apply iff_of_false
      . exact topic_text_ne_base root root' id
      . simp
    | some id' =>
      rw [Option.some_inj]
      exact topic_text_inj

end CommandRoot
end LockFleet.Topic
