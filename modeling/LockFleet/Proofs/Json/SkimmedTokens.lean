import LockFleet.Json.Reader
import LockFleet.Proofs.Json.Agreement

/-!
This module contains what becomes of numbers and strings that are only skimmed. Where the same number or
string can be read whole, octet by octet, skimming it finds no fault either and ends it at the same octet.
-/

namespace LockFleet.Json

namespace Numeral

variable {n : Numeral} {octet : UInt8} {v : Json}

theorem addExponent_skim {d : Nat} (h : ∀ f, n.addExponent false d ≠ .fault f) (skim : Bool) :
    n.addExponent skim d = n.addExponent false d := by
  unfold addExponent at h ⊢
  dsimp only at h ⊢
  split
  . rfl
  . next hbig =>
    rw [if_neg hbig] at h
    split
    . next hhuge =>
      rw [if_pos ⟨hhuge.1, hhuge.2.1, rfl⟩] at h
      exact (h _ rfl).elim
    . split
      . next hhuge =>
        rw [if_pos hhuge] at h
        exact (h _ rfl).elim
      . rfl

theorem step_skim (h : ∀ f, n.step false octet ≠ .fault f) (skim : Bool) :
    n.step skim octet = n.step false octet := by
  unfold step at h ⊢
  cases hstage : n.stage with
  | exponent =>
    cases hdigit : digit? octet with
    | some d =>
      rw [hstage, hdigit] at h
      exact addExponent_skim h skim
    | none => rfl
  | _ => cases digit? octet <;> rfl

theorem valueOr_skim (h : n.valueOr false = .ok v) (skim : Bool) : n.valueOr skim = .ok v := by
  unfold valueOr at h ⊢
  split at h
  . cases h
  . next hfits =>
    rw [h]

end Numeral

namespace StringToken

/--
What of a string is kept where it is only skimmed. There a surrogate is a character of its own, so that
nothing of a pair is outstanding after its first half.
-/
inductive Mode.Resembles : Mode → Mode → Prop where
  | plain : Resembles .plain .plain
  | escape : Resembles .escape .escape
  | hex (seen : List UInt8) (lead : Option Nat) : Resembles (.hex seen lead) (.hex seen none)
  | pair (lead : Nat) : Resembles (.pair lead) .plain
  | pairEscape (lead : Nat) : Resembles (.pairEscape lead) .escape

/--
A string and the same string where it is skimmed. As long as the one can still become UTF-8, so can the
other.
-/
structure Resembles (t t' : StringToken) : Prop where
  mode : t.mode.Resembles t'.mode
  whole : t.encoding = .whole → t'.encoding = .whole
  within : ∀ p count, t.mode = .plain → t.encoding = .within p count → t'.encoding = .within p count

inductive Agrees : Option Shape → StringToken → StringToken → Prop where
  | same (s : Shape) (t : StringToken) : Agrees (some s) t t
  | skimmed {t t' : StringToken} (h : t.Resembles t') : Agrees none t t'

inductive Step.Agrees : Option Shape → Step → Step → Prop where
  | more {s : Option Shape} {t t' : StringToken} (h : t.Agrees s t') : Agrees s (.more t) (.more t')
  | closed {s : Option Shape} {text text' : List Char} (h : s = none ∨ text' = text) :
      Agrees s (.closed text) (.closed text')
  | stop (s : Option Shape) (e : Stop) (step : Step) : Agrees s (.stop e) step

variable {t t' : StringToken} {octet : UInt8}

theorem agrees_start (s : Option Shape) : start.Agrees s start := by
  cases s with
  | some s => exact .same s start
  | none => exact .skimmed ⟨.plain, fun h => h, fun _ _ _ h => h⟩

theorem agrees_push (h : t.encoding = .whole → t'.encoding = .whole) (c c' : Char) :
    Step.Agrees none (t.push c) (t'.push c') := by
  refine .more (.skimmed ⟨.plain, ?_, ?_⟩)
  . intro hwhole
    cases hencoding : t.encoding with
    | whole => simp [h hencoding, Encoding.append]
    | _ => simp [hencoding, Encoding.append] at hwhole
  . intro p count _ hwithin
    cases hencoding : t.encoding <;> simp [hencoding, Encoding.append] at hwithin

theorem agrees_enter (h : t.encoding = .whole → t'.encoding = .whole) {mode mode' : Mode}
    (hmode : mode.Resembles mode') (hplain : mode ≠ .plain) :
    Step.Agrees none (t.enter mode) (t'.enter mode') :=
  .more (.skimmed ⟨hmode, h, fun _ _ heq => (hplain heq).elim⟩)

theorem agrees_feed (hmode : t.mode = .plain) (hmode' : t'.mode = .plain) (p : Option Utf8.Partial)
    (count : Nat) :
    Step.Agrees none (plainStep.feed t octet p count) (plainStep.feed t' octet p count) := by
  unfold plainStep.feed
  split
  . exact .more (.skimmed ⟨.plain, fun h => h, fun _ _ _ h => h⟩)
  . refine .more (.skimmed ⟨?_, fun h => h, fun _ _ _ h => h⟩)
    rw [hmode, hmode']
    exact .plain
  . refine .more (.skimmed ⟨?_, fun h => h, fun _ _ _ h => h⟩)
    rw [hmode, hmode']
    exact .plain

theorem agrees_more_of_broken {count : Nat} (hmode : t.mode = .plain) (hmode' : t'.mode = .plain) :
    Step.Agrees none (.more { t with encoding := .broken count }) (.more t') := by
  refine .more (.skimmed ⟨?_, fun h => (by cases h), fun _ _ _ h => (by cases h)⟩)
  rw [hmode, hmode']
  exact .plain

theorem exists_feed_eq_more (hmode : t.mode = .plain) (octet : UInt8) (p : Option Utf8.Partial)
    (count : Nat) :
    ∃ t', plainStep.feed t octet p count = .more t' ∧ t'.mode = .plain := by
  unfold plainStep.feed
  split
  . exact ⟨_, rfl, rfl⟩
  . exact ⟨_, rfl, hmode⟩
  . exact ⟨_, rfl, hmode⟩

theorem agrees_plainStep (h : t.Resembles t') (hmode : t.mode = .plain) (hmode' : t'.mode = .plain) :
    Step.Agrees none (t.plainStep octet) (t'.plainStep octet) := by
  unfold plainStep
  split
  . cases hencoding : t.encoding with
    | whole =>
      rw [h.whole hencoding]
      exact .closed (.inl rfl)
    | within p count => exact .stop ..
    | broken count => exact .stop ..
  . split
    . exact agrees_enter h.whole .escape (by simp)
    . split
      . exact .stop ..
      . cases hencoding : t.encoding with
        | whole =>
          rw [h.whole hencoding]
          exact agrees_feed hmode hmode' none 0
        | within p count =>
          rw [h.within p count hmode hencoding]
          exact agrees_feed hmode hmode' (some p) count
        | broken count =>
          -- The first string is lost, so all that counts is that the second one goes on.
          cases t'.encoding with
          | whole =>
            obtain ⟨t₁, ht₁, hplain⟩ := exists_feed_eq_more hmode' octet none 0
            dsimp only
            rw [ht₁]
            exact agrees_more_of_broken hmode hplain
          | within p count =>
            obtain ⟨t₁, ht₁, hplain⟩ := exists_feed_eq_more hmode' octet (some p) count
            dsimp only
            rw [ht₁]
            exact agrees_more_of_broken hmode hplain
          | broken count => exact agrees_more_of_broken hmode hmode'

theorem agrees_unitStep (h : t.encoding = .whole → t'.encoding = .whole) (lead : Option Nat) (n : Nat) :
    Step.Agrees none (t.unitStep false lead n) (t'.unitStep true none n) := by
  unfold unitStep
  rw [if_neg Bool.false_ne_true, if_pos rfl]
  cases lead with
  | none =>
    dsimp only
    split
    . exact .stop ..
    . split
      -- Half a pair is kept back in the first string and stands for itself in the second one.
      . refine .more (.skimmed ⟨.pair n, ?_, fun _ _ heq => (by cases heq)⟩)
        intro hwhole
        simp [h hwhole, Encoding.append]
      . exact agrees_push h _ _
  | some lead =>
    dsimp only
    split
    . exact agrees_push h _ _
    . exact .stop ..

theorem Resembles.agrees_step (h : t.Resembles t') (octet : UInt8) :
    Step.Agrees none (t.step false octet) (t'.step true octet) := by
  have hmode := h.mode
  generalize hfirst : t.mode = first at hmode
  generalize hsecond : t'.mode = second at hmode
  unfold step
  rw [hfirst, hsecond]
  cases hmode with
  | plain => exact agrees_plainStep h hfirst hsecond
  | escape =>
    dsimp only
    split
    . exact agrees_enter h.whole (.hex [] none) (by simp)
    . split
      . exact agrees_push h.whole _ _
      . exact .stop ..
  | hex seen lead =>
    dsimp only
    split
    . exact agrees_enter h.whole (.hex _ lead) (by simp)
    . split
      . exact agrees_unitStep h.whole lead _
      . exact .stop ..
  | pair lead =>
    dsimp only
    split
    . next hbackslash =>
      unfold plainStep
      rw [if_neg (by rw [hbackslash]; decide), if_pos hbackslash]
      exact agrees_enter h.whole (.pairEscape lead) (by simp)
    . exact .stop ..
  | pairEscape lead =>
    dsimp only
    split
    . exact agrees_enter h.whole (.hex [] (some lead)) (by simp)
    . exact .stop ..

theorem Agrees.step {s : Option Shape} (h : t.Agrees s t') (octet : UInt8) :
    Step.Agrees s (t.step false octet) (t'.step s.isNone octet) := by
  cases h with
  | same s t =>
    change Step.Agrees (some s) (t.step false octet) (t.step false octet)
    cases t.step false octet with
    | more t => exact .more (.same s t)
    | closed text => exact .closed (.inr rfl)
    | stop e => exact .stop ..
  | skimmed h => exact h.agrees_step octet

end StringToken

end LockFleet.Json
