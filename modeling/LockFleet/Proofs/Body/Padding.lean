import LockFleet.Proofs.Body.Decision
import LockFleet.Proofs.Json.Padding
import Mathlib.Data.List.Forall2

/-!
This module contains the proof that blanks around a body do not matter: the same is made of it, or the same
is found to be wrong with it. Only the wording of an issue may differ, since it may tell how far a text
could be read.
-/

namespace LockFleet

structure Issue.IsAlike (i j : Issue) : Prop where
  path : i.path = j.path
  code : i.code = j.code
  expected : i.expected = j.expected
  received : i.received = j.received

namespace Body

open Json (IsPadding)

inductive Alike {α : Type} : Except ValidationError α → Except ValidationError α → Prop where
  | ok (a : α) : Alike (.ok a) (.ok a)
  | error {e e' : ValidationError} (h : List.Forall₂ Issue.IsAlike e.issues e'.issues) :
      Alike (.error e) (.error e')

variable {before body other after : List UInt8}

theorem Alike.refl {α : Type} (r : Except ValidationError α) : Alike r r := by
  cases r with
  | ok a => exact .ok a
  | error e =>
    apply Alike.error
    rw [List.forall₂_same]
    intro i hi
    exact ⟨rfl, rfl, rfl, rfl⟩

theorem Alike.malformed {α : Type} (detail detail' : String) :
    Alike (.error (.single (.malformed detail)) : Except ValidationError α)
      (.error (.single (.malformed detail'))) :=
  .error (.cons ⟨rfl, rfl, rfl, rfl⟩ .nil)

theorem isBlank_of_mem_padding {octet : UInt8} (h : octet ∈ [0x20, 0x09, 0x0D, 0x0A]) :
    isBlank octet = true := by
  simp only [List.mem_cons, List.not_mem_nil, or_false] at h
  rcases h with rfl | rfl | rfl | rfl <;> rfl

theorem all_isBlank_of_isPadding (h : IsPadding body) : body.all isBlank = true :=
  List.all_eq_true.2 fun octet hoctet => isBlank_of_mem_padding (h octet hoctet)

theorem all_isBlank_padded (hbefore : IsPadding before) (hafter : IsPadding after) :
    (before ++ body ++ after).all isBlank = body.all isBlank := by
  rw [List.all_append, List.all_append, all_isBlank_of_isPadding hbefore,
    all_isBlank_of_isPadding hafter, Bool.true_and, Bool.and_true]

theorem alike_decode_padded (hbefore : IsPadding before) (hafter : IsPadding after) :
    Alike (decode (before ++ body ++ after)) (decode body) := by
  have hsame : ∀ v, Json.read (before ++ body ++ after) = .ok v ↔ Json.read body = .ok v :=
    fun v => Json.read_padded_eq_ok_iff hbefore hafter
  unfold decode
  rw [all_isBlank_padded hbefore hafter]
  split
  . exact .refl _
  . cases hread : Json.read body with
    | ok v =>
      rw [(hsame v).2 hread]
      exact .refl _
    | error refusal =>
      cases hpadded : Json.read (before ++ body ++ after) with
      | ok v =>
        rw [(hsame v).1 hpadded] at hread
        cases hread
      | error refusal' => exact .malformed _ _

theorem alike_command (h : Alike (decode other) (decode body)) (w : Workflow) :
    Alike (command w other) (command w body) := by
  generalize hother : decode other = decoded at h
  generalize hbody : decode body = decoded' at h
  cases h with
  | ok members =>
    rw [command_of_decode_eq_ok hother, command_of_decode_eq_ok hbody]
    exact .refl _
  | error h =>
    rw [command_of_decode_eq_error hother, command_of_decode_eq_error hbody]
    exact .error h

theorem padding_changes_nothing (hbefore : IsPadding before) (hafter : IsPadding after) :
    Alike (decode (before ++ body ++ after)) (decode body) ∧
    ∀ w, Alike (command w (before ++ body ++ after)) (command w body) :=
  ⟨alike_decode_padded hbefore hafter, alike_command (alike_decode_padded hbefore hafter)⟩

def cutOff : List UInt8 :=
  Utf8.encode "\x7b\"command\": \"book".toList

def formFeed : List UInt8 :=
  [0x0C]

theorem padding_changes_nothing_at_borders :
    IsPadding [0x20, 0x0A] ∧ IsPadding [0x0D, 0x0A, 0x09] ∧
    (command .booking cutOff).toOption = none ∧
    Alike (command .booking ([0x20, 0x0A] ++ cutOff ++ [0x0D, 0x0A, 0x09])) (command .booking cutOff) ∧
    (command .status formFeed).toOption = some .requestStatus ∧
    Alike (command .status ([0x20, 0x0A] ++ formFeed ++ [0x0D, 0x0A, 0x09]))
      (command .status formFeed) := by
  have hbefore : IsPadding [0x20, 0x0A] := by decide
  have hafter : IsPadding [0x0D, 0x0A, 0x09] := by decide
  refine ⟨hbefore, hafter, ?_, ?_, ?_, ?_⟩
  . decide +kernel
  . exact (padding_changes_nothing hbefore hafter).2 .booking
  . decide +kernel
  . exact (padding_changes_nothing hbefore hafter).2 .status

end Body
end LockFleet
