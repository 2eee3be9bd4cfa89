import LockFleet.Json.StringToken
import LockFleet.Proofs.Json.Grammar
import LockFleet.Proofs.Text.Hex
import LockFleet.Proofs.Text.Utf8

/-!
This module contains the proof that a string is read as it is written: whichever way each character is
written, the reader has the same characters in the end.
-/

namespace LockFleet.Json

open Utf8 (Leads Partial)

namespace StringToken

def next? (t : StringToken) (octet : UInt8) : Option StringToken :=
  match t.step false octet with
  | .more t => some t
  | _ => none

def read? (t : StringToken) (text : List Char) : Option StringToken :=
  (Utf8.encode text).foldlM next? t

theorem read?_append (t : StringToken) (text rest : List Char) :
    t.read? (text ++ rest) = (t.read? text).bind (·.read? rest) := by
  unfold read?
  rw [Utf8.encode_append, List.foldlM_append]
  rfl

def between (chars : List Char) : StringToken :=
  ⟨chars, .whole, .plain⟩

def Holds (p : Option Partial) (e : Encoding) : Prop :=
  match p with
  | none => e = .whole
  | some p => ∃ count, e = .within p count

theorem next?_of_holds {p : Option Partial} {e : Encoding} {octet : UInt8} (he : Holds p e)
    (chars : List Char) (hcontrol : 0x20 ≤ octet) (hquote : octet ≠ 0x22) (hbackslash : octet ≠ 0x5C) :
    ∃ count, next? ⟨chars, e, .plain⟩ octet =
      match Utf8.step p octet with
      | .char c => some (between (c :: chars))
      | .wants q => some ⟨chars, .within q count, .plain⟩
      | .invalid => some ⟨chars, .broken count, .plain⟩ := by
  have feed : ∀ count, (match plainStep.feed ⟨chars, e, .plain⟩ octet p count with
      | .more t => some t
      | _ => none) =
      match Utf8.step p octet with
      | .char c => some (between (c :: chars))
      | .wants q => some ⟨chars, .within q (count + 1), .plain⟩
      | .invalid => some ⟨chars, .broken (count + 1), .plain⟩ := by
    intro count
    unfold plainStep.feed
    cases Utf8.step p octet <;> rfl
  unfold next? step plainStep
  dsimp only
  rw [if_neg hquote, if_neg hbackslash, if_neg (by simpa using hcontrol)]
  cases p with
  | none =>
    cases he
    exact ⟨_, feed 0⟩
  | some p =>
    obtain ⟨count, rfl⟩ := he
    exact ⟨_, feed count⟩

theorem foldlM_next?_of_leads {c : Char} {p : Option Partial} {octets : List UInt8}
    (h : Leads c p octets) {chars : List Char} {e : Encoding} (he : Holds p e)
    (hplain : ∀ octet ∈ octets, 0x20 ≤ octet ∧ octet ≠ 0x22 ∧ octet ≠ 0x5C) :
    octets.foldlM next? ⟨chars, e, .plain⟩ = some (between (c :: chars)) := by
  induction h generalizing e with
  | last h =>
    obtain ⟨hcontrol, hquote, hbackslash⟩ := hplain _ List.mem_cons_self
    obtain ⟨count, hnext⟩ := next?_of_holds he chars hcontrol hquote hbackslash
    rw [List.foldlM_cons, hnext, h]
    rfl
  | more h hrest ih =>
    obtain ⟨hcontrol, hquote, hbackslash⟩ := hplain _ List.mem_cons_self
    obtain ⟨count, hnext⟩ := next?_of_holds he chars hcontrol hquote hbackslash
    rw [List.foldlM_cons, hnext, h]
    apply ih ⟨count, rfl⟩
    intro octet hmem
    exact hplain octet (List.mem_cons_of_mem _ hmem)

theorem plain_of_mem_utf8EncodeChar {c : Char} (hcontrol : 0x20 ≤ c.toNat) (hquote : c ≠ '"')
    (hbackslash : c ≠ '\\') {octet : UInt8} (h : octet ∈ String.utf8EncodeChar c) :
    0x20 ≤ octet ∧ octet ≠ 0x22 ∧ octet ≠ 0x5C := by
  rcases Nat.lt_or_ge c.toNat 0x80 with hc | hc
  . rw [Utf8.utf8EncodeChar_of_lt hc, List.mem_singleton] at h
    have hoctet : octet.toNat = c.toNat := by
      rw [h, UInt8.toNat_ofNat_of_lt' (show c.toNat < 256 by omega)]
    refine ⟨?_, ?_, ?_⟩
    . exact UInt8.le_iff_toNat_le.2 (by rw [hoctet]; exact hcontrol)
    . rintro rfl
      exact hquote (Char.toNat_inj.1 hoctet.symm)
    . rintro rfl
      exact hbackslash (Char.toNat_inj.1 hoctet.symm)
  . have hoctet := Utf8.le_of_mem_utf8EncodeChar hc h
    refine ⟨?_, ?_, ?_⟩
    . exact UInt8.le_iff_toNat_le.2 (Nat.le_trans (by decide) hoctet)
    . rintro rfl
      exact absurd hoctet (by decide)
    . rintro rfl
      exact absurd hoctet (by decide)

theorem read?_raw {c : Char} (hcontrol : 0x20 ≤ c.toNat) (hquote : c ≠ '"') (hbackslash : c ≠ '\\')
    (chars : List Char) : (between chars).read? [c] = some (between (c :: chars)) := by
  unfold read?
  rw [Utf8.encode_cons, Utf8.encode_nil, List.append_nil]
  apply foldlM_next?_of_leads (Utf8.leads_utf8EncodeChar c) (p := none) rfl
  intro octet hmem
  exact plain_of_mem_utf8EncodeChar hcontrol hquote hbackslash hmem

theorem read?_short {c letter : Char} (h : (letter, c) ∈ shortEscapes) (chars : List Char) :
    (between chars).read? ['\\', letter] = some (between (c :: chars)) := by
  simp only [shortEscapes, List.mem_cons, Prod.mk.injEq, List.not_mem_nil, or_false] at h
  rcases h with ⟨rfl, rfl⟩ | ⟨rfl, rfl⟩ | ⟨rfl, rfl⟩ | ⟨rfl, rfl⟩ | ⟨rfl, rfl⟩ | ⟨rfl, rfl⟩ | ⟨rfl, rfl⟩ |
    ⟨rfl, rfl⟩ <;> rfl

theorem hexNumber?_of_isUnit {n : Nat} {digits : List Char} (h : IsUnit n digits) :
    Text.hexNumber? digits = some n := by
  obtain ⟨hn, hdigits⟩ := h
  rw [← Text.hexNumber?_map Text.hexValue?_toLower, hdigits]
  exact Text.hexNumber?_hexDigits hn

theorem length_of_isUnit {n : Nat} {digits : List Char} (h : IsUnit n digits) :
    digits.length = 4 := by
  rw [← List.length_map Char.toLower, h.2, Text.length_hexDigits]

theorem read?_unit {n : Nat} {digits : List Char} (h : IsUnit n digits) (chars : List Char)
    (lead : Option Nat) :
    read? ⟨chars, .whole, .hex [] lead⟩ digits
      = match unitStep false (between chars) lead n with
        | .more t => some t
        | _ => none := by
  have hnumber := hexNumber?_of_isUnit h
  have hback : (Utf8.encode digits).map (fun o => Char.ofNat o.toNat) = digits :=
    Utf8.map_ofNat_encode (Text.lt_of_hexNumber?_eq_some hnumber)
  have hlength : (Utf8.encode digits).length = 4 := by
    rw [← length_of_isUnit h, ← congrArg List.length hback, List.length_map]
  unfold read?
  match hoctets : Utf8.encode digits, hlength with
  | [o₁, o₂, o₃, o₄], _ =>
    rw [hoctets] at hback
    have hlast : next? ⟨chars, .whole, .hex [o₁, o₂, o₃] lead⟩ o₄
        = match unitStep false (between chars) lead n with
          | .more t => some t
          | _ => none := by
      unfold next? step
      dsimp only [List.cons_append, List.nil_append]
      rw [hback, hnumber]
      rfl
    rw [← hlast]
    exact Option.bind_fun_some _

theorem toNat_lt (c : Char) : c.toNat < 0x110000 := by
  rcases c.valid with h | h
  . exact Nat.lt_trans h (by decide)
  . exact h.2

theorem not_surrogate (c : Char) : ¬(0xD800 ≤ c.toNat ∧ c.toNat ≤ 0xDFFF) := by
  rintro ⟨hleast, hmost⟩
  rcases c.valid with h | h
  . exact absurd hleast (Nat.not_le_of_lt h)
  . exact absurd hmost (Nat.not_le_of_lt h.1)

theorem unitStep_toNat (c : Char) (chars : List Char) :
    unitStep false (between chars) none c.toNat = .more (between (c :: chars)) := by
  have hc := not_surrogate c
  unfold unitStep isTrailingSurrogate isLeadingSurrogate
  dsimp only
  rw [if_neg (by decide), if_neg (by simp; omega), if_neg (by simp; omega), Char.ofNat_toNat]
  rfl

theorem unitStep_lead {n : Nat} (hleast : 0xD800 ≤ n) (hmost : n ≤ 0xDBFF) (chars : List Char) :
    unitStep false (between chars) none n = .more ⟨chars, .whole, .pair n⟩ := by
  unfold unitStep isTrailingSurrogate isLeadingSurrogate
  dsimp only
  rw [if_neg (by decide), if_neg (by simp; omega), if_pos (by simp; omega)]
  rfl

theorem joinSurrogates_toNat {c : Char} (hc : 0x10000 ≤ c.toNat) :
    joinSurrogates (0xD800 + (c.toNat - 0x10000) / 0x400) (0xDC00 + (c.toNat - 0x10000) % 0x400)
      = c := by
  unfold joinSurrogates
  have hn : (0xD800 + (c.toNat - 0x10000) / 0x400 - 0xD800) * 0x400
      + (0xDC00 + (c.toNat - 0x10000) % 0x400 - 0xDC00) + 0x10000 = c.toNat := by
    omega
  rw [hn, Char.ofNat_toNat]

theorem unitStep_trail {c : Char} (hc : 0x10000 ≤ c.toNat) (chars : List Char) :
    unitStep false (between chars) (some (0xD800 + (c.toNat - 0x10000) / 0x400))
      (0xDC00 + (c.toNat - 0x10000) % 0x400) = .more (between (c :: chars)) := by
  unfold unitStep isTrailingSurrogate
  dsimp only
  rw [if_neg (by decide), if_pos (by simp; omega), joinSurrogates_toNat hc]
  rfl

theorem read?_of_spellsChar {c : Char} {text : List Char} (h : SpellsChar c text)
    (chars : List Char) : (between chars).read? text = some (between (c :: chars)) := by
  cases h with
  | raw hcontrol hquote hbackslash => exact read?_raw hcontrol hquote hbackslash chars
  | short h => exact read?_short h chars
  | @unit digits h =>
    have hdigits := read?_unit h chars none
    rw [unitStep_toNat] at hdigits
    exact hdigits
  | @pair lead trail hc hlead htrail =>
    have hlead := read?_unit hlead chars none
    have htrail := read?_unit htrail chars (some (0xD800 + (c.toNat - 0x10000) / 0x400))
    have hbound := toNat_lt c
    rw [unitStep_lead (by omega) (by omega)] at hlead
    rw [unitStep_trail hc] at htrail
    have happend := read?_append ⟨chars, .whole, .hex [] none⟩ lead ('\\' :: 'u' :: trail)
    rw [hlead] at happend
    exact happend.trans htrail

theorem read?_of_spellsChars {text written : List Char} (h : SpellsChars text written)
    (chars : List Char) :
    (between chars).read? written = some (between (text.reverse ++ chars)) := by
  induction h generalizing chars with
  | nil => rfl
  | cons h hrest ih =>
    rw [read?_append, read?_of_spellsChar h, Option.bind_some, ih]
    simp

end StringToken
end LockFleet.Json
