import LockFleet.Text.Utf8

/-!
This module contains the proof that UTF-8 is read as it is written: the octets of a character lead the
reader to that character, and the octets of a text decode to it.
-/

namespace LockFleet.Utf8

inductive Leads (c : Char) : Option Partial → List UInt8 → Prop where
  | last {p : Option Partial} {octet : UInt8} (h : step p octet = .char c) : Leads c p [octet]
  | more {p : Option Partial} {q : Partial} {octet : UInt8} {rest : List UInt8}
    (h : step p octet = .wants q) (hrest : Leads c (some q) rest) : Leads c p (octet :: rest)

variable {n value least most : Nat}

theorem first_one (h : n < 0x80) : first (UInt8.ofNat n) = .char (Char.ofNat n) := by
  unfold first
  dsimp only
  rw [UInt8.toNat_ofNat_of_lt' (show n < 256 by omega), if_pos h]

theorem first_two (h : 0xC2 ≤ n) (h' : n < 0xE0) :
    first (UInt8.ofNat n) = .wants ⟨n - 0xC0, 1, 0x80, 0xBF⟩ := by
  unfold first
  dsimp only
  rw [UInt8.toNat_ofNat_of_lt' (show n < 256 by omega), if_neg (by omega), if_neg (by omega), if_pos h']

theorem first_three (h : 0xE0 ≤ n) (h' : n < 0xF0) :
    first (UInt8.ofNat n)
      = .wants ⟨n - 0xE0, 2, if n = 0xE0 then 0xA0 else 0x80, if n = 0xED then 0x9F else 0xBF⟩ := by
  unfold first
  dsimp only
  rw [UInt8.toNat_ofNat_of_lt' (show n < 256 by omega), if_neg (by omega), if_neg (by omega),
    if_neg (by omega), if_pos h']

theorem first_four (h : 0xF0 ≤ n) (h' : n < 0xF5) :
    first (UInt8.ofNat n)
      = .wants ⟨n - 0xF0, 3, if n = 0xF0 then 0x90 else 0x80, if n = 0xF4 then 0x8F else 0xBF⟩ := by
  unfold first
  dsimp only
  rw [UInt8.toNat_ofNat_of_lt' (show n < 256 by omega), if_neg (by omega), if_neg (by omega),
    if_neg (by omega), if_neg (by omega), if_pos h']

theorem next_last (hleast : least ≤ n) (hmost : n ≤ most) (hn : n < 256) :
    step (some ⟨value, 1, least, most⟩) (UInt8.ofNat n)
      = .char (Char.ofNat (64 * value + (n - 0x80))) := by
  unfold step Partial.next
  dsimp only
  rw [UInt8.toNat_ofNat_of_lt' hn, if_neg (by simp; omega), if_pos (Nat.le_refl 1)]

theorem next_more (more : Nat) (hleast : least ≤ n) (hmost : n ≤ most) (hn : n < 256) :
    step (some ⟨value, more + 2, least, most⟩) (UInt8.ofNat n)
      = .wants ⟨64 * value + (n - 0x80), more + 1, 0x80, 0xBF⟩ := by
  unfold step Partial.next
  dsimp only
  rw [UInt8.toNat_ofNat_of_lt' hn, if_neg (by simp; omega), if_neg (by omega)]
  rfl

theorem leads_utf8EncodeChar (c : Char) : Leads c none (String.utf8EncodeChar c) := by
  have hvalid : c.val.toNat < 0xD800 ∨ 0xDFFF < c.val.toNat ∧ c.val.toNat < 0x110000 := c.valid
  have whole : ∀ {n : Nat}, n = c.val.toNat → Step.char (Char.ofNat n) = .char c := by
    rintro n rfl
    exact congrArg Step.char (Char.ofNat_toNat c)
  unfold String.utf8EncodeChar
  generalize c.val.toNat = n at hvalid whole ⊢
  dsimp only
  split
  . apply Leads.last
    exact (first_one (by omega)).trans (whole rfl)
  split
  . refine .more (first_two (by omega) (by omega)) (.last ?_)
    rw [next_last (by omega) (by omega) (by omega)]
    exact whole (by omega)
  split
  . refine .more (first_three (by omega) (by omega)) ?_
    refine .more (next_more 0 (by split <;> omega) (by split <;> omega) (by omega)) (.last ?_)
    rw [next_last (by omega) (by omega) (by omega)]
    exact whole (by omega)
  . refine .more (first_four (by omega) (by omega)) ?_
    refine .more (next_more 1 (by split <;> omega) (by split <;> omega) (by omega)) ?_
    refine .more (next_more 0 (by omega) (by omega) (by omega)) (.last ?_)
    rw [next_last (by omega) (by omega) (by omega)]
    exact whole (by omega)

theorem utf8EncodeChar_of_lt {c : Char} (h : c.toNat < 0x80) :
    String.utf8EncodeChar c = [UInt8.ofNat c.toNat] := by
  unfold String.utf8EncodeChar
  exact if_pos (Nat.le_of_lt_succ h)

theorem le_of_mem_utf8EncodeChar {c : Char} (h : 0x80 ≤ c.toNat) {octet : UInt8}
    (hmem : octet ∈ String.utf8EncodeChar c) : 0x80 ≤ octet.toNat := by
  have hlead : ∀ {n : Nat}, 0x80 ≤ n → n < 256 → 0x80 ≤ (UInt8.ofNat n).toNat := by
    intro n hn hn'
    rwa [UInt8.toNat_ofNat_of_lt' hn']
  have hn : ¬c.val.toNat ≤ 0x7f := Nat.not_le_of_lt h
  unfold String.utf8EncodeChar at hmem
  dsimp only at hmem
  rw [if_neg hn] at hmem
  split at hmem
  . simp only [List.mem_cons, List.not_mem_nil, or_false] at hmem
    rcases hmem with rfl | rfl <;> exact hlead (by omega) (by omega)
  split at hmem
  . simp only [List.mem_cons, List.not_mem_nil, or_false] at hmem
    rcases hmem with rfl | rfl | rfl <;> exact hlead (by omega) (by omega)
  . simp only [List.mem_cons, List.not_mem_nil, or_false] at hmem
    rcases hmem with rfl | rfl | rfl | rfl <;> exact hlead (by omega) (by omega)

@[simp]
theorem encode_nil : encode [] = [] :=
  rfl

@[simp]
theorem encode_cons (c : Char) (text : List Char) :
    encode (c :: text) = String.utf8EncodeChar c ++ encode text :=
  rfl

@[simp]
theorem encode_append (text rest : List Char) : encode (text ++ rest) = encode text ++ encode rest :=
  List.flatMap_append

theorem map_ofNat_encode {text : List Char} (h : ∀ c ∈ text, c.toNat < 0x80) :
    (encode text).map (fun octet => Char.ofNat octet.toNat) = text := by
  induction text with
  | nil => rfl
  | cons c text ih =>
    have hc := h c List.mem_cons_self
    rw [encode_cons, utf8EncodeChar_of_lt hc, List.map_append, ih fun c hc => h c (by simp [hc]),
      List.map_singleton, UInt8.toNat_ofNat_of_lt' (show c.toNat < 256 by omega), Char.ofNat_toNat]
    rfl

theorem Leads.go_append {c : Char} {p : Option Partial} {octets : List UInt8} (h : Leads c p octets)
    (before : List Char) (rest : List UInt8) :
    decode.go before p (octets ++ rest) = decode.go (c :: before) none rest := by
  induction h with
  | last h =>
    rw [List.singleton_append, decode.go, h]
  | more h hrest ih =>
    rw [List.cons_append, decode.go, h]
    exact ih

theorem decode_encode (text : List Char) : decode (encode text) = some text := by
  have go : ∀ before, decode.go before none (encode text) = some (before.reverse ++ text) := by
    induction text with
    | nil =>
      intro before
      rw [encode_nil, decode.go, List.append_nil]
    | cons c text ih =>
      intro before
      rw [encode_cons, (leads_utf8EncodeChar c).go_append, ih]
      simp
  exact go []

end LockFleet.Utf8
