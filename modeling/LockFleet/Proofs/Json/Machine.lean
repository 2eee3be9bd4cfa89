import LockFleet.Json.Reader
import LockFleet.Proofs.Json.Grammar
import LockFleet.Proofs.Text.Utf8

/-!
This module contains what the reader does between values: it passes over blanks, and a value that is
complete ends at the next blank, comma or bracket.
-/

namespace LockFleet.Json

namespace State

def next? (s : State) (octet : UInt8) : Option State :=
  (s.step (fun _ => false) octet).toOption

def value? (s : State) (octets : List UInt8) : Option Json :=
  (octets.foldlM next? s).bind fun s => (s.finish (fun _ => false)).toOption

theorem toOption_run (s : State) (count : Nat) (octets : List UInt8) :
    (s.run (fun _ => false) count octets).toOption = octets.foldlM next? s := by
  induction octets generalizing s count with
  | nil => rfl
  | cons octet octets ih =>
    rw [List.foldlM_cons]
    unfold run next?
    cases s.step (fun _ => false) octet with
    | error e => rfl
    | ok s => exact ih s (count + 1)

theorem value?_cons (s : State) (octet : UInt8) (octets : List UInt8) :
    s.value? (octet :: octets) = (s.next? octet).bind (·.value? octets) := by
  unfold value?
  rw [List.foldlM_cons]
  exact Option.bind_assoc ..

theorem value?_append (s : State) (octets rest : List UInt8) :
    s.value? (octets ++ rest) = (octets.foldlM next? s).bind (·.value? rest) := by
  unfold value?
  rw [List.foldlM_append]
  exact Option.bind_assoc ..

def read? (s : State) (text : List Char) : Option State :=
  (Utf8.encode text).foldlM next? s

theorem read?_append (s : State) (text rest : List Char) :
    s.read? (text ++ rest) = (s.read? text).bind (·.read? rest) := by
  unfold read?
  rw [Utf8.encode_append, List.foldlM_append]
  rfl

theorem read?_cons {c : Char} (hc : c.toNat < 0x80) (s : State) (rest : List Char) :
    s.read? (c :: rest) = (s.next? (UInt8.ofNat c.toNat)).bind (·.read? rest) := by
  unfold read?
  rw [Utf8.encode_cons, Utf8.utf8EncodeChar_of_lt hc, List.singleton_append, List.foldlM_cons]
  rfl

def IsReady (s : State) : Prop :=
  s.phase = .value ∨ s.phase = .firstItem ∨ s.phase = .nextItem

def PassesBlanks (s : State) : Prop :=
  ∀ octet, isSpace octet = true → s.next? octet = some s

variable {s s' : State} {frames : List Frame} {raw : Json} {text : List Char}

theorem passesBlanks_of_phase (h : s.phase = .value ∨ s.phase = .firstItem ∨ s.phase = .nextItem ∨
    s.phase = .firstName ∨ s.phase = .nextName ∨ s.phase = .colon ∨ s.phase = .separator ∨
    ∃ v, s.phase = .done v) : s.PassesBlanks := by
  intro octet hspace
  unfold next? step afterValue
  rcases h with h | h | h | h | h | h | h | ⟨v, h⟩ <;> rw [h] <;> dsimp only <;> rw [if_pos hspace] <;> rfl

theorem IsReady.passesBlanks (h : s.IsReady) : s.PassesBlanks := by
  apply passesBlanks_of_phase
  rcases h with h | h | h <;> simp [h]

theorem isSpace_of_mem {c : Char} (h : c ∈ [' ', '\t', '\n', '\r']) :
    c.toNat < 0x80 ∧ isSpace (UInt8.ofNat c.toNat) = true := by
  simp only [List.mem_cons, List.not_mem_nil, or_false] at h
  rcases h with rfl | rfl | rfl | rfl <;> decide

theorem PassesBlanks.read?_eq (h : s.PassesBlanks) (htext : IsBlank text) :
    s.read? text = some s := by
  induction text with
  | nil => rfl
  | cons c text ih =>
    obtain ⟨hc, hspace⟩ := isSpace_of_mem (htext c List.mem_cons_self)
    rw [read?_cons hc, h _ hspace, Option.bind_some]
    exact ih fun c hc => htext c (List.mem_cons_of_mem _ hc)

theorem IsReady.next?_eq (h : s.IsReady) {octet : UInt8} (hspace : isSpace octet = false)
    (hbracket : octet ≠ 0x5D) :
    s.next? octet = (beginValue (fun _ => false) s.frames octet).toOption := by
  unfold next? step
  rcases h with h | h | h <;> rw [h] <;> dsimp only <;> simp [hspace, hbracket]

def isDelimiter (octet : UInt8) : Bool :=
  isSpace octet || octet == 0x2C || octet == 0x5D || octet == 0x7D

structure Completes (frames : List Frame) (raw : Json) (s : State) : Prop where
  next? : ∀ octet, isDelimiter octet = true →
    s.next? octet = ((deliver frames raw).afterValue octet).toOption
  finish : frames = [] → s.finish (fun _ => false) = .ok raw

theorem next?_deliver (frames : List Frame) (raw : Json) (octet : UInt8) :
    (deliver frames raw).next? octet = ((deliver frames raw).afterValue octet).toOption := by
  unfold deliver
  split <;> rfl

theorem completes_deliver (frames : List Frame) (raw : Json) :
    Completes frames raw (deliver frames raw) := by
  refine ⟨fun octet _ => next?_deliver frames raw octet, ?_⟩
  rintro rfl
  rfl

theorem passesBlanks_deliver (frames : List Frame) (raw : Json) :
    (deliver frames raw).PassesBlanks := by
  intro octet hspace
  rw [next?_deliver]
  unfold afterValue
  rw [if_pos hspace]
  rfl

theorem Completes.exists_read?_blank (h : Completes frames raw s) (htext : IsBlank text) :
    ∃ s', s.read? text = some s' ∧ Completes frames raw s' := by
  cases text with
  | nil => exact ⟨s, rfl, h⟩
  | cons c text =>
    obtain ⟨hc, hspace⟩ := isSpace_of_mem (htext c List.mem_cons_self)
    have hdeliver := passesBlanks_deliver frames raw _ hspace
    refine ⟨deliver frames raw, ?_, completes_deliver frames raw⟩
    rw [read?_cons hc, h.next? _ (by simp [isDelimiter, hspace]), ← next?_deliver, hdeliver,
      Option.bind_some]
    exact (passesBlanks_deliver frames raw).read?_eq fun c hc => htext c (List.mem_cons_of_mem _ hc)

end State

theorem read_eq_ok_iff {octets : List UInt8} {v : Json} :
    read octets = .ok v ↔ State.start.value? octets = some v := by
  unfold read readSkimming State.value?
  rw [← State.toOption_run State.start 0]
  cases State.start.run (fun _ => false) 0 octets with
  | error e => simp [Except.toOption]
  | ok s =>
    dsimp only [Except.toOption, Option.bind_some]
    cases s.finish (fun _ => false) <;> simp

open State (deliver Completes)

variable {rest : List Frame} {before : List Json} {beforeMembers : List (String × Json)}
  {name : String} {raw : Json} {s : State}

theorem State.Completes.read?_comma (h : Completes (.items before :: rest) raw s)
    (text : List Char) :
    s.read? (',' :: text) = State.read? ⟨.items (raw :: before) :: rest, .nextItem⟩ text := by
  rw [State.read?_cons (by decide), h.next? _ (by decide)]
  rfl

theorem State.Completes.read?_bracket (h : Completes (.items before :: rest) raw s) :
    s.read? [']'] = some (deliver rest (.array (before.reverse ++ [raw]))) := by
  rw [State.read?_cons (by decide), h.next? _ (by decide), ← List.reverse_cons]
  rfl

theorem State.Completes.read?_comma_member (h : Completes (.member beforeMembers name :: rest) raw s)
    (text : List Char) :
    s.read? (',' :: text)
      = State.read? ⟨.members ((name, raw) :: beforeMembers) :: rest, .nextName⟩ text := by
  rw [State.read?_cons (by decide), h.next? _ (by decide)]
  rfl

theorem State.Completes.read?_brace (h : Completes (.member beforeMembers name :: rest) raw s) :
    s.read? ['}'] = some (deliver rest (.object (beforeMembers.reverse ++ [(name, raw)]))) := by
  rw [State.read?_cons (by decide), h.next? _ (by decide), ← List.reverse_cons]
  rfl

structure Yields (fits : Prop) (good : State → Prop) (outcome : Option State) : Prop where
  exists_eq_some : fits → ∃ s, outcome = some s ∧ good s
  eq_none : ¬fits → outcome = none

namespace Yields

variable {fits fits' : Prop} {good good' : State → Prop} {outcome : Option State}

theorem of_eq_some {s : State} (hfits : fits) (h : outcome = some s) (hs : good s) :
    Yields fits good outcome :=
  ⟨fun _ => ⟨s, h, hs⟩, fun hnot => absurd hfits hnot⟩

theorem bind {f : State → Option State} (h : Yields fits good outcome)
    (h' : ∀ s, good s → Yields fits' good' (f s)) :
    Yields (fits ∧ fits') good' (outcome.bind f) := by
  constructor
  . rintro ⟨hfits, hfits'⟩
    obtain ⟨s, rfl, hs⟩ := h.exists_eq_some hfits
    exact (h' s hs).exists_eq_some hfits'
  . intro hnot
    rcases Classical.em fits with hfits | hfits
    . obtain ⟨s, rfl, hs⟩ := h.exists_eq_some hfits
      exact (h' s hs).eq_none fun hfits' => hnot ⟨hfits, hfits'⟩
    . rw [h.eq_none hfits]
      rfl

theorem mono (h : Yields fits good outcome) (h' : ∀ s, good s → good' s) :
    Yields fits good' outcome := by
  refine ⟨?_, h.eq_none⟩
  intro hfits
  obtain ⟨s, heq, hs⟩ := h.exists_eq_some hfits
  exact ⟨s, heq, h' s hs⟩

theorem congr (h : Yields fits good outcome) (hiff : fits' ↔ fits) : Yields fits' good outcome :=
  ⟨fun hfits => h.exists_eq_some (hiff.1 hfits), fun hnot => h.eq_none fun hfits => hnot (hiff.2 hfits)⟩

theorem map {good' : State → Prop} {f : State → Option State} (h : Yields fits good outcome)
    (h' : ∀ s, good s → ∃ s', f s = some s' ∧ good' s') : Yields fits good' (outcome.bind f) := by
  have hbind : Yields (fits ∧ True) good' (outcome.bind f) := by
    apply h.bind
    intro s hs
    obtain ⟨s', heq, hs'⟩ := h' s hs
    exact .of_eq_some trivial heq hs'
  exact hbind.congr (by simp)

end Yields
end LockFleet.Json
