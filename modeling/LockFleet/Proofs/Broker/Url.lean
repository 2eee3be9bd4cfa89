import LockFleet.Broker.Address
import LockFleet.Proofs.Text.Decimal
import Mathlib.Data.List.DropRight

/-!
This module contains how the two readings of the URL of a broker agree: the form that settings may give
it, and the address that is made of it. A URL of that form always has a host. It names an address unless
its port is out of range or written with digits that are not ASCII, which the form allows.
-/

namespace LockFleet.Broker

namespace Scheme

theorem rest?_eq_some_iff {s : Scheme} {url rest : List Char} :
    s.rest? url = some rest ↔ s.text.toList ++ rest = url := by
  unfold rest?
  exact List.isPrefixOf?_eq_some_iff_append_eq

end Scheme

theorem splitScheme_append (s : Scheme) (rest : List Char) :
    splitScheme (s.text.toList ++ rest) = (s.tls, rest) := by
  cases s <;> rfl

theorem dropSlashes_append_replicate {text : List Char} (h : text.getLast? ≠ some '/') (n : Nat) :
    dropSlashes (text ++ List.replicate n '/') = text := by
  change (text ++ List.replicate n '/').rdropWhile (· == '/') = text
  induction n with
  | zero =>
    rw [List.replicate_zero, List.append_nil, List.rdropWhile_eq_self_iff]
    intro hne hlast
    apply h
    rw [List.getLast?_eq_some_getLast hne, beq_iff_eq.1 hlast]
  | succ n ih =>
    rw [List.replicate_succ', ← List.append_assoc, List.rdropWhile_concat_pos _ _ _ rfl]
    exact ih

theorem splitLastColon_append {after : List Char} (host : List Char) (h : ':' ∉ after) :
    splitLastColon (host ++ ':' :: after) = some (host, after) := by
  have hafter : ((host ++ ':' :: after).reverse.takeWhile (· != ':')).reverse = after := by
    have hreverse : (host ++ ':' :: after).reverse = after.reverse ++ ':' :: host.reverse := by simp
    have hne : ∀ c ∈ after.reverse, (c != ':') = true := by
      intro c hc
      rw [bne_iff_ne]
      rintro rfl
      exact h (List.mem_reverse.1 hc)
    rw [hreverse, List.takeWhile_append_of_pos hne, List.takeWhile_cons_of_neg (by simp),
      List.append_nil, List.reverse_reverse]
  have hlength : (host ++ ':' :: after).length - after.length - 1 = host.length := by
    simp only [List.length_append, List.length_cons]
    omega
  unfold splitLastColon
  dsimp
  rw [hafter, hlength, List.take_left, if_pos (by simp; omega)]

theorem splitLastColon_eq_none {text : List Char} (h : ':' ∉ text) : splitLastColon text = none := by
  have hall : text.reverse.takeWhile (· != ':') = text.reverse := by
    rw [List.takeWhile_eq_self_iff]
    intro c hc
    rw [bne_iff_ne]
    rintro rfl
    exact h (List.mem_reverse.1 hc)
  unfold splitLastColon
  dsimp
  rw [hall, if_neg (by simp)]

def hostAndPort? (tls : Bool) (place : List Char) : Option (List Char × UInt16) :=
  match splitLastColon place with
  | some (host, digits) => (port? digits).map fun port => (host, port)
  | none => some (place, defaultPort tls)

theorem Address.ofUrl_eq_of_place {scheme : Scheme} {place : List Char}
    (hplace : place.getLast? ≠ some '/') {slashes : Nat} {url : String}
    (h : scheme.text.toList ++ (place ++ List.replicate slashes '/') = url.toList) :
    Address.ofUrl url
      = match hostAndPort? scheme.tls place with
        | none => .error (.invalidPort url)
        | some (host, port) =>
          if host = [] then .error (.missingHost url)
          else .ok ⟨String.ofList host, port, scheme.tls⟩ := by
  unfold Address.ofUrl hostAndPort?
  rw [← h, splitScheme_append]
  dsimp only
  rewrite [dropSlashes_append_replicate hplace]
  rfl

theorem not_mem_of_all {p : Char → Bool} {text : List Char} (h : text.all p = true) {c : Char}
    (hc : p c = false) : c ∉ text := by
  intro hmem
  rw [List.all_eq_true.1 h c hmem] at hc
  cases hc

def IsPort (digits : List Char) : Prop :=
  1 ≤ digits.length ∧ digits.length ≤ 5 ∧ digits.all Text.isDecimalDigit = true

instance (digits : List Char) : Decidable (IsPort digits) :=
  inferInstanceAs (Decidable (1 ≤ digits.length ∧ digits.length ≤ 5 ∧ _))

theorem isSome_port?_iff_of_isPort {digits : List Char} (h : IsPort digits) :
    (port? digits).isSome = true ↔
      Text.isNumeral digits = true ∧ Text.numeralValue digits < 65536 := by
  -- A plus sign is no digit of any script.
  have hplus : '+' ∉ digits := not_mem_of_all h.2.2 (by decide)
  unfold port?
  rw [Option.isSome_map, Text.number?_eq_ite, Text.dropPlus_eq_self hplus]
  split
  . next hnumeral => simp [hnumeral, Nat.lt_succ_iff]
  . next hnumeral => simp [hnumeral]

def portPart : Option (List Char) → List Char
  | none => []
  | some digits => ':' :: digits

theorem isPortPart_iff {text : List Char} :
    isPortPart text = true ↔ ∃ port, (∀ digits ∈ port, IsPort digits) ∧ portPart port = text := by
  constructor
  . unfold isPortPart
    split
    . intro _
      exact ⟨none, by simp, rfl⟩
    . next digits =>
      intro h
      refine ⟨some digits, ?_, rfl⟩
      rintro _ ⟨⟩
      simpa [IsPort, and_assoc] using h
    . intro h
      cases h
  . rintro ⟨port, hport, rfl⟩
    cases port with
    | none => rfl
    | some digits => simpa [IsPort, and_assoc, isPortPart, portPart] using hport

structure UrlForm where
  scheme : Scheme
  host : List Char
  host_ne_nil : host ≠ []
  all_isHostChar : host.all isHostChar = true
  port : Option (List Char)
  isPort_of_mem : ∀ digits ∈ port, IsPort digits
  slash : Bool

namespace UrlForm

def place (f : UrlForm) : List Char :=
  f.host ++ portPart f.port

def text (f : UrlForm) : List Char :=
  f.scheme.text.toList ++ (f.place ++ List.replicate f.slash.toNat '/')

theorem text_eq (f : UrlForm) :
    f.text = f.scheme.text.toList
      ++ (f.host ++ (portPart f.port ++ List.replicate f.slash.toNat '/')) := by
  unfold text place
  rw [List.append_assoc]

theorem slash_not_mem_portPart (f : UrlForm) : '/' ∉ portPart f.port := by
  intro h
  cases hport : f.port with
  | none =>
    rw [hport] at h
    cases h
  | some digits =>
    rw [hport] at h
    rcases List.mem_cons.1 h with h | h
    . cases h
    . exact not_mem_of_all (f.isPort_of_mem digits hport).2.2 (by decide) h

theorem slash_not_mem_place (f : UrlForm) : '/' ∉ f.place := by
  intro h
  rcases List.mem_append.1 h with h | h
  . exact not_mem_of_all f.all_isHostChar (by decide) h
  . exact f.slash_not_mem_portPart h

end UrlForm

theorem exists_dropSlash_append_eq (text : List Char) :
    ∃ slash : Bool, dropSlash text ++ List.replicate slash.toNat '/' = text := by
  unfold dropSlash
  split
  . next h =>
    obtain ⟨front, rfl⟩ := List.getLast?_eq_some_iff.1 h
    exact ⟨true, by simp⟩
  . exact ⟨false, by simp⟩

theorem dropSlash_append_replicate {text : List Char} (h : '/' ∉ text) (slash : Bool) :
    dropSlash (text ++ List.replicate slash.toNat '/') = text := by
  unfold dropSlash
  cases slash with
  | true => simp
  | false =>
    rw [if_neg]
    . simp
    . intro hlast
      exact h (List.mem_of_getLast? (by simpa using hlast))

theorem isValidUrl_iff {url : String} :
    isValidUrl url = true ↔ ∃ f : UrlForm, f.text = url.toList := by
  unfold isValidUrl
  rw [List.any_eq_true]
  constructor
  . rintro ⟨scheme, -, h⟩
    split at h
    . cases h
    . next rest hrest =>
      dsimp at h
      rw [Bool.and_eq_true, Bool.not_eq_true', List.isEmpty_eq_false_iff, isPortPart_iff] at h
      obtain ⟨hhost, port, hport, htail⟩ := h
      obtain ⟨slash, hslash⟩ :=
        exists_dropSlash_append_eq (rest.drop (rest.takeWhile isHostChar).length)
      refine ⟨⟨scheme, rest.takeWhile isHostChar, hhost, List.all_takeWhile, port, hport, slash⟩, ?_⟩
      rw [UrlForm.text_eq]
      dsimp
      rw [htail, hslash, List.prefix_iff_eq_append.1 (List.takeWhile_prefix _),
        Scheme.rest?_eq_some_iff.1 hrest]
  . rintro ⟨f, hf⟩
    refine ⟨f.scheme, by cases f.scheme <;> decide, ?_⟩
    have hrest := Scheme.rest?_eq_some_iff.2 (f.text_eq.symm.trans hf)
    -- A colon, a slash or nothing follows, so the host is the longest run of host characters.
    have hstop : (portPart f.port ++ List.replicate f.slash.toNat '/').takeWhile isHostChar = [] := by
      cases f.port with
      | some digits => rfl
      | none => cases f.slash <;> rfl
    rw [hrest]
    dsimp
    rw [List.takeWhile_append_of_pos (List.all_eq_true.1 f.all_isHostChar), hstop, List.append_nil,
      List.drop_left, dropSlash_append_replicate f.slash_not_mem_portPart, Bool.and_eq_true,
      Bool.not_eq_true', List.isEmpty_eq_false_iff, isPortPart_iff]
    exact ⟨f.host_ne_nil, f.port, f.isPort_of_mem, rfl⟩

namespace UrlForm

def port? (f : UrlForm) : Option UInt16 :=
  match f.port with
  | none => some (defaultPort f.scheme.tls)
  | some digits => Broker.port? digits

theorem ofUrl_eq (f : UrlForm) {url : String} (h : f.text = url.toList) :
    Address.ofUrl url
      = match f.port? with
        | none => .error (.invalidPort url)
        | some port => .ok ⟨String.ofList f.host, port, f.scheme.tls⟩ := by
  have hplace : f.place.getLast? ≠ some '/' := fun hlast =>
    f.slash_not_mem_place (List.mem_of_getLast? hlast)
  rw [Address.ofUrl_eq_of_place hplace h]
  unfold hostAndPort? place port?
  cases hport : f.port with
  | none =>
    have hcolon : ':' ∉ f.host := not_mem_of_all f.all_isHostChar (by decide)
    rw [portPart, List.append_nil, splitLastColon_eq_none hcolon]
    simp [f.host_ne_nil]
  | some digits =>
    have hcolon : ':' ∉ digits :=
      not_mem_of_all (f.isPort_of_mem digits hport).2.2 (by decide)
    rw [portPart, splitLastColon_append _ hcolon]
    dsimp
    cases Broker.port? digits with
    | none => rfl
    | some port => simp [f.host_ne_nil]

def PortFits (f : UrlForm) : Prop :=
  ∀ digits, f.port = some digits →
    Text.isNumeral digits = true ∧ Text.numeralValue digits < 65536

theorem isSome_port?_iff (f : UrlForm) : f.port?.isSome = true ↔ f.PortFits := by
  unfold port? PortFits
  cases hport : f.port with
  | none => simp
  | some digits =>
    rw [isSome_port?_iff_of_isPort (f.isPort_of_mem digits hport)]
    simp

end UrlForm

def NamesAddress (url : String) : Prop :=
  ∃ a, Address.ofUrl url = .ok a ∧ a.host ≠ ""

theorem UrlForm.namesAddress_iff (f : UrlForm) {url : String} (h : f.text = url.toList) :
    NamesAddress url ↔ f.PortFits := by
  unfold NamesAddress
  rw [f.ofUrl_eq h, ← f.isSome_port?_iff]
  cases f.port? with
  | none => simp
  | some port => simp [f.host_ne_nil]

theorem namesAddress_iff_of_isValidUrl {url : String} (h : isValidUrl url = true) :
    NamesAddress url ↔ ∃ f : UrlForm, f.text = url.toList ∧ f.PortFits := by
  constructor
  . intro hnames
    obtain ⟨f, hf⟩ := isValidUrl_iff.1 h
    exact ⟨f, hf, (f.namesAddress_iff hf).1 hnames⟩
  . rintro ⟨f, hf, hfits⟩
    exact (f.namesAddress_iff hf).2 hfits

end LockFleet.Broker
