import LockFleet.Proofs.Broker.Url
import LockFleet.Proofs.Text.Decimal

/-!
This module contains the proof that a URL names the address that it is written for. The port stands behind
the last colon, so the host can be any text, and slashes at the end do not matter.
-/

namespace LockFleet.Broker

def Scheme.ofKind (tls : Bool) : List Scheme :=
  if tls then [.mqtts, .ssl] else [.mqtt, .tcp]

theorem Scheme.tls_of_mem_ofKind {scheme : Scheme} {tls : Bool} (h : scheme ∈ ofKind tls) :
    scheme.tls = tls := by
  cases tls <;> rcases List.mem_pair.1 h with rfl | rfl <;> rfl

theorem port?_numeral (port : UInt16) : port? (Text.numeral port.toNat) = some port := by
  have hnumeral := Text.isNumeral_numeral port.toNat
  have hfits : port.toNat ≤ 65535 := Nat.le_of_lt_succ port.toNat_lt
  unfold port?
  rw [Text.number?_eq_ite, Text.dropPlus_of_isNumeral hnumeral, Text.numeralValue_numeral,
    if_pos hnumeral, if_pos hfits, Option.map_some, UInt16.ofNat_toNat]

namespace Address

def slashes (n : Nat) : String :=
  String.ofList (List.replicate n '/')

variable {host url : String} {scheme : Scheme} {a : Address}

theorem ofUrl_url (hhost : a.host ≠ "") (hscheme : scheme.tls = a.tls) (n : Nat) :
    ofUrl (a.url scheme ++ slashes n) = .ok a := by
  let digits := Text.numeral a.port.toNat
  have hlast : (a.host.toList ++ ':' :: digits).getLast? ≠ some '/' := by
    rw [List.getLast?_append_of_ne_nil _ (List.cons_ne_nil _ _),
      List.getLast?_cons_of_ne_nil (Text.numeral_ne_nil _)]
    intro hslash
    exact Text.not_mem_numeral (by decide) (List.mem_of_getLast? hslash)
  have htext : scheme.text.toList ++ (a.host.toList ++ ':' :: digits ++ List.replicate n '/')
      = (a.url scheme ++ slashes n).toList := by
    simp [url, slashes, digits]
  have hsplit : hostAndPort? scheme.tls (a.host.toList ++ ':' :: digits)
      = some (a.host.toList, a.port) := by
    unfold hostAndPort?
    rw [splitLastColon_append _ (Text.not_mem_numeral (by decide))]
    dsimp only
    rw [port?_numeral, Option.map_some]
  rw [ofUrl_eq_of_place hlast htext, hsplit]
  dsimp only
  rw [if_neg (mt String.toList_eq_nil_iff.1 hhost), String.ofList_toList, hscheme]

theorem ofUrl_of_no_port (hhost : host ≠ "") (hcolon : ':' ∉ host.toList)
    (hlast : host.toList.getLast? ≠ some '/') (scheme : Scheme) (n : Nat) :
    ofUrl (scheme.text ++ host ++ slashes n) = .ok ⟨host, defaultPort scheme.tls, scheme.tls⟩ := by
  have htext : scheme.text.toList ++ (host.toList ++ List.replicate n '/')
      = (scheme.text ++ host ++ slashes n).toList := by
    simp [slashes]
  have hsplit : hostAndPort? scheme.tls host.toList = some (host.toList, defaultPort scheme.tls) := by
    unfold hostAndPort?
    rw [splitLastColon_eq_none hcolon]
  rw [ofUrl_eq_of_place hlast htext, hsplit]
  dsimp only
  rw [if_neg (mt String.toList_eq_nil_iff.1 hhost), String.ofList_toList]

theorem host_ne_empty_of_ofUrl (h : ofUrl url = .ok a) : a.host ≠ "" := by
  unfold ofUrl at h
  dsimp only at h
  split at h
  . cases h
  . next host port _ =>
    split at h
    . cases h
    . next hhost =>
      cases h
      exact mt String.ofList_eq_empty_iff.1 hhost

theorem urls_round_trip :
    (∀ (a : Address) (scheme : Scheme) (n : Nat), a.host ≠ "" → scheme ∈ Scheme.ofKind a.tls →
      ofUrl (a.url scheme ++ slashes n) = .ok a) ∧
    (∀ (host : String) (tls : Bool) (scheme : Scheme) (n : Nat), host ≠ "" → ':' ∉ host.toList →
      host.toList.getLast? ≠ some '/' → scheme ∈ Scheme.ofKind tls →
      ofUrl (scheme.text ++ host ++ slashes n) = .ok ⟨host, if tls then 8883 else 1883, tls⟩) ∧
    ∀ (url : String) (a : Address), ofUrl url = .ok a →
      a.host ≠ "" ∧ ∀ scheme ∈ Scheme.ofKind a.tls, ∀ n, ofUrl (a.url scheme ++ slashes n) = .ok a := by
  refine ⟨?_, ?_, ?_⟩
  . intro a scheme n hhost hscheme
    exact ofUrl_url hhost (Scheme.tls_of_mem_ofKind hscheme) n
  . intro host tls scheme n hhost hcolon hlast hscheme
    obtain rfl := Scheme.tls_of_mem_ofKind hscheme
    exact ofUrl_of_no_port hhost hcolon hlast scheme n
  . intro url a h
    have hhost := host_ne_empty_of_ofUrl h
    refine ⟨hhost, ?_⟩
    intro scheme hscheme n
    exact ofUrl_url hhost (Scheme.tls_of_mem_ofKind hscheme) n

def awkward : Address :=
  ⟨"[::1]:80//", 65535, true⟩

theorem urls_round_trip_awkward :
    (awkward.host ≠ "" ∧ Scheme.ssl ∈ Scheme.ofKind awkward.tls ∧
      awkward.url .ssl ++ slashes 2 = "ssl://[::1]:80//:65535//" ∧
      ofUrl "ssl://[::1]:80//:65535//" = .ok awkward) ∧
    (':' ∉ "a/b".toList ∧ "a/b".toList.getLast? ≠ some '/' ∧ Scheme.tcp ∈ Scheme.ofKind false ∧
      ofUrl ("tcp://" ++ "a/b" ++ slashes 1) = .ok ⟨"a/b", 1883, false⟩) ∧
    ofUrl "mqtt:/h:+007" = .ok ⟨"mqtt:/h", 7, false⟩ ∧
      ofUrl "tcp://mqtt:/h:7" = .ok ⟨"mqtt:/h", 7, false⟩ := by
  obtain ⟨hport, hnone, hread⟩ := urls_round_trip
  have hwritten : awkward.url .ssl ++ slashes 2 = "ssl://[::1]:80//:65535//" := by decide +kernel
  have hplus : ofUrl "mqtt:/h:+007" = .ok ⟨"mqtt:/h", 7, false⟩ := by decide +kernel
  refine ⟨⟨by decide, by decide, hwritten, ?_⟩, ⟨by decide, by decide, by decide, ?_⟩, hplus, ?_⟩
  . rw [← hwritten]
    exact hport awkward .ssl 2 (by decide) (by decide)
  . exact hnone "a/b" false .tcp 1 (by decide) (by decide) (by decide) (by decide)
  . exact (hread _ _ hplus).2 .tcp (by decide) 0

end Address
end LockFleet.Broker
