import LockFleet.Proofs.Json.SkimmedTokens

/-!
This module contains the proof that a text which can be read whole can be read for any shape, and that the
two values agree. The reader is run twice over the text. As long as the run that reads everything finds no
fault, the other one follows it: its state is the same up to what was skimmed.
-/

namespace LockFleet.Json

def Shape.skim (s : Shape) : Skim :=
  fun frames => s.skims frames.reverse

theorem Shape.skim_eq (s : Shape) (frames : List Frame) : s.skim frames = (s.at? frames).isNone :=
  s.skims_reverse frames

inductive FramesAgree (root : Shape) : List Frame → List Frame → Prop where
  | nil : FramesAgree root [] []
  | items {outer outer' : List Frame} {before before' : List Json}
      (houter : FramesAgree root outer outer')
      (hbefore : Agrees (root.at? outer) (.array before.reverse) (.array before'.reverse)) :
      FramesAgree root (.items before :: outer) (.items before' :: outer')
  | members {outer outer' : List Frame} {before before' : List (String × Json)}
      (houter : FramesAgree root outer outer')
      (hbefore : Agrees (root.at? outer) (.object before.reverse) (.object before'.reverse)) :
      FramesAgree root (.members before :: outer) (.members before' :: outer')
  | member {outer outer' : List Frame} {before before' : List (String × Json)} {name name' : String}
      (houter : FramesAgree root outer outer')
      (hbefore : Agrees (root.at? outer) (.object before.reverse) (.object before'.reverse))
      (hname : root.at? outer = none ∨ name' = name) :
      FramesAgree root (.member before name :: outer) (.member before' name' :: outer')

def Phase.IsPlain : Phase → Prop
  | .name _ | .string _ | .done _ => False
  | _ => True

inductive Phase.Agrees (root : Shape) (frames : List Frame) : Phase → Phase → Prop where
  | same {phase : Phase} (h : phase.IsPlain) : Agrees root frames phase phase
  | name {t t' : StringToken} (h : t.Agrees (root.at? frames) t') : Agrees root frames (.name t) (.name t')
  | string {t t' : StringToken} (h : t.Agrees (root.at? frames) t') :
      Agrees root frames (.string t) (.string t')
  | done {v v' : Json} (h : Json.Agrees (some root) v v') : Agrees root frames (.done v) (.done v')

structure Follows (root : Shape) (s s' : State) : Prop where
  frames : FramesAgree root s.frames s'.frames
  phase : s.phase.Agrees root s.frames s'.phase

def Simulates (root : Shape) (outcome outcome' : Except Stop State) : Prop :=
  ∀ s, outcome = .ok s → ∃ s', outcome' = .ok s' ∧ Follows root s s'

variable {root : Shape} {frames frames' : List Frame} {s s' : State} {v v' : Json}

theorem simulates_ok (h : Follows root s s') : Simulates root (.ok s) (.ok s') := by
  rintro _ ⟨⟩
  exact ⟨s', rfl, h⟩

theorem simulates_error {e : Stop} {outcome : Except Stop State} : Simulates root (.error e) outcome := by
  intro s h
  cases h

theorem simulates_ite {p : Prop} [Decidable p] {outcome outcome' other other' : Except Stop State}
    (h : Simulates root outcome outcome') (hother : Simulates root other other') :
    Simulates root (if p then outcome else other) (if p then outcome' else other') := by
  split
  . exact h
  . exact hother

namespace FramesAgree

theorem length_eq (h : FramesAgree root frames frames') : frames'.length = frames.length := by
  induction h with
  | nil => rfl
  | items _ _ ih => rw [List.length_cons, List.length_cons, ih]
  | members _ _ ih => rw [List.length_cons, List.length_cons, ih]
  | member _ _ _ ih => rw [List.length_cons, List.length_cons, ih]

theorem at?_eq (h : FramesAgree root frames frames') : root.at? frames' = root.at? frames := by
  induction h with
  | nil => rfl
  | items houter hbefore ih =>
    -- Which item it is follows from the number of the items before it, which both runs have read.
    rw [Shape.at?_cons, Shape.at?_cons, ih]
    apply Option.bind_congr
    intro s hs
    rw [hs] at hbefore
    obtain ⟨items, heq, hlength⟩ := hbefore.exists_eq_array
    cases heq
    rw [List.length_reverse, List.length_reverse] at hlength
    exact s.part?_items hlength
  | members houter hbefore ih =>
    rw [Shape.at?_cons, Shape.at?_cons, ih]
    apply Option.bind_congr
    intro s hs
    rw [s.part?_members, s.part?_members]
  | member houter hbefore hname ih =>
    rw [Shape.at?_cons, Shape.at?_cons, ih]
    rcases hname with hnone | rfl
    . rw [hnone]
      rfl
    . apply Option.bind_congr
      intro s hs
      exact s.part?_member ..

theorem follows_deliver (h : FramesAgree root frames frames') (hv : Agrees (root.at? frames) v v') :
    Follows root (State.deliver frames v) (State.deliver frames' v') := by
  cases h with
  | nil => exact ⟨.nil, .done hv⟩
  | items houter hbefore =>
    refine ⟨.items houter ?_, .same trivial⟩
    rw [List.reverse_cons, List.reverse_cons]
    rw [Shape.at?_cons] at hv
    exact hbefore.append_item hv
  | members houter hbefore => exact ⟨.members houter hbefore, .same trivial⟩
  | member houter hbefore hname =>
    refine ⟨.members houter ?_, .same trivial⟩
    rw [List.reverse_cons, List.reverse_cons]
    rw [Shape.at?_cons] at hv
    exact hbefore.append_member hname hv

theorem follows_close (h : FramesAgree root frames frames') :
    Follows root (State.close frames) (State.close frames') := by
  cases h with
  | nil => exact ⟨.nil, .same trivial⟩
  | items houter hbefore => exact houter.follows_deliver hbefore
  | members houter hbefore => exact houter.follows_deliver hbefore
  | member houter hbefore hname => exact ⟨.member houter hbefore hname, .same trivial⟩

theorem follows_nameRead {text text' : List Char} (h : FramesAgree root frames frames')
    (htext : root.at? frames = none ∨ text' = text) :
    Follows root (State.nameRead frames text) (State.nameRead frames' text') := by
  cases h with
  | nil => exact ⟨.nil, .same trivial⟩
  | items houter hbefore => exact ⟨.items houter hbefore, .same trivial⟩
  | members houter hbefore =>
    refine ⟨.member houter hbefore ?_, .same trivial⟩
    rcases htext with hnone | rfl
    -- Names are read whole wherever the object itself is not skimmed.
    . rw [Shape.at?_cons] at hnone
      refine .inl (Option.eq_none_iff_forall_ne_some.2 ?_)
      intro s hs
      rw [hs, Option.bind_some, s.part?_members] at hnone
      cases hnone
    . exact .inr rfl
  | member houter hbefore hname => exact ⟨.member houter hbefore hname, .same trivial⟩

theorem simulates_enter (h : FramesAgree root frames frames') {frame : Frame} {phase : Phase}
    (hframe : FramesAgree root (frame :: frames) (frame :: frames')) (hphase : phase.IsPlain) :
    Simulates root (State.enter (fun _ => false) frames frame phase)
      (State.enter root.skim frames' frame phase) := by
  unfold State.enter
  split
  . exact simulates_error
  . next hfits =>
    -- What is not too deep for the first run is not too deep for the second one, skimmed or not.
    rw [if_neg]
    . exact simulates_ok ⟨hframe, .same hphase⟩
    . rintro ⟨hdeep, -⟩
      rw [h.length_eq] at hdeep
      exact hfits ⟨hdeep, rfl⟩

theorem simulates_beginValue (h : FramesAgree root frames frames') (octet : UInt8) :
    Simulates root (State.beginValue (fun _ => false) frames octet)
      (State.beginValue root.skim frames' octet) := by
  have hplain : ∀ {phase : Phase}, phase.IsPlain →
      Simulates root (.ok ⟨frames, phase⟩) (.ok ⟨frames', phase⟩) :=
    fun hphase => simulates_ok ⟨h, .same hphase⟩
  unfold State.beginValue
  split
  . exact hplain trivial
  . exact hplain trivial
  . exact hplain trivial
  . exact hplain trivial
  . exact simulates_ok ⟨h, .string (StringToken.agrees_start _)⟩
  . exact h.simulates_enter (.items h (.same ..)) trivial
  . exact h.simulates_enter (.members h (.same ..)) trivial
  . split
    . exact hplain trivial
    . exact simulates_error

end FramesAgree

namespace Follows

theorem simulates_afterValue (h : Follows root s s') (octet : UInt8) :
    Simulates root (s.afterValue octet) (s'.afterValue octet) := by
  obtain ⟨frames, phase⟩ := s
  obtain ⟨frames', phase'⟩ := s'
  have hframes : FramesAgree root frames frames' := h.frames
  have hseparated : ∀ (bracket : UInt8) (fault : Fault) {next : Phase}, next.IsPlain →
      Simulates root
        (if octet = 0x2C then .ok ⟨frames, next⟩
          else if octet = bracket then .ok (State.close frames) else State.fail fault)
        (if octet = 0x2C then .ok ⟨frames', next⟩
          else if octet = bracket then .ok (State.close frames') else State.fail fault) := by
    intro bracket fault next hnext
    refine simulates_ite (simulates_ok ⟨hframes, .same hnext⟩) ?_
    exact simulates_ite (simulates_ok hframes.follows_close) simulates_error
  unfold State.afterValue
  refine simulates_ite (simulates_ok h) ?_
  cases hframes with
  | nil => exact simulates_error
  | items houter hbefore => exact hseparated 0x5D .expectedItemSeparator trivial
  | members houter hbefore => exact hseparated 0x7D .expectedMemberSeparator trivial
  | member houter hbefore hname => exact hseparated 0x7D .expectedMemberSeparator trivial

theorem simulates_beginName (h : FramesAgree root frames frames') {phase : Phase} (octet : UInt8) :
    Simulates root (State.beginName ⟨frames, phase⟩ octet) (State.beginName ⟨frames', phase⟩ octet) := by
  unfold State.beginName
  exact simulates_ite (simulates_ok ⟨h, .name (StringToken.agrees_start _)⟩) simulates_error

theorem simulates_name {t t' : StringToken} (h : FramesAgree root frames frames')
    (ht : t.Agrees (root.at? frames) t') (octet : UInt8) :
    Simulates root (State.step (fun _ => false) ⟨frames, .name t⟩ octet)
      (State.step root.skim ⟨frames', .name t'⟩ octet) := by
  have hstep := ht.step octet
  unfold State.step
  dsimp only
  rw [root.skim_eq, h.at?_eq]
  generalize t.step false octet = step at hstep
  generalize t'.step (root.at? frames).isNone octet = step' at hstep
  cases hstep with
  | more ht => exact simulates_ok ⟨h, .name ht⟩
  | closed htext => exact simulates_ok (h.follows_nameRead htext)
  | stop e step => exact simulates_error

theorem simulates_string {t t' : StringToken} (h : FramesAgree root frames frames')
    (ht : t.Agrees (root.at? frames) t') (octet : UInt8) :
    Simulates root (State.step (fun _ => false) ⟨frames, .string t⟩ octet)
      (State.step root.skim ⟨frames', .string t'⟩ octet) := by
  have hstep := ht.step octet
  unfold State.step
  dsimp only
  rw [root.skim_eq, h.at?_eq]
  generalize t.step false octet = step at hstep
  generalize t'.step (root.at? frames).isNone octet = step' at hstep
  cases hstep with
  | more ht => exact simulates_ok ⟨h, .string ht⟩
  | closed htext =>
    refine simulates_ok (h.follows_deliver ?_)
    rcases htext with hnone | rfl
    . rw [hnone]
      exact .skimmed ..
    . exact .same ..
  | stop e step => exact simulates_error

theorem simulates_number (h : FramesAgree root frames frames') (n : Numeral) (octet : UInt8) :
    Simulates root (State.step (fun _ => false) ⟨frames, .number n⟩ octet)
      (State.step root.skim ⟨frames', .number n⟩ octet) := by
  unfold State.step
  dsimp only
  cases hstep : n.step false octet with
  | more m =>
    rw [Numeral.step_skim (by simp [hstep]), hstep]
    exact simulates_ok ⟨h, .same trivial⟩
  | fault f => exact simulates_error
  | ended =>
    rw [Numeral.step_skim (by simp [hstep]), hstep]
    dsimp only
    cases hvalue : n.valueOr false with
    | ok v =>
      rw [Numeral.valueOr_skim hvalue]
      exact (h.follows_deliver (.same ..)).simulates_afterValue octet
    | error f => exact simulates_error

theorem simulates_step (h : Follows root s s') (octet : UInt8) :
    Simulates root (s.step (fun _ => false) octet) (s'.step root.skim octet) := by
  obtain ⟨frames, phase⟩ := s
  obtain ⟨frames', phase'⟩ := s'
  obtain ⟨hframes, hphase⟩ := h
  have hplain : ∀ {next : Phase}, next.IsPlain →
      Simulates root (.ok ⟨frames, next⟩) (.ok ⟨frames', next⟩) :=
    fun hnext => simulates_ok ⟨hframes, .same hnext⟩
  dsimp only at hframes hphase
  cases hphase with
  | name ht => exact simulates_name hframes ht octet
  | string ht => exact simulates_string hframes ht octet
  | done hv => exact simulates_afterValue ⟨hframes, .done hv⟩ octet
  | same hphase =>
    unfold State.step
    cases phase with
    | value => exact simulates_ite (hplain trivial) (hframes.simulates_beginValue octet)
    | firstItem =>
      refine simulates_ite (hplain trivial) ?_
      exact simulates_ite (simulates_ok hframes.follows_close) (hframes.simulates_beginValue octet)
    | nextItem =>
      refine simulates_ite (hplain trivial) ?_
      exact simulates_ite simulates_error (hframes.simulates_beginValue octet)
    | firstName =>
      refine simulates_ite (hplain trivial) ?_
      exact simulates_ite (simulates_ok hframes.follows_close) (simulates_beginName hframes octet)
    | nextName =>
      refine simulates_ite (hplain trivial) ?_
      exact simulates_ite simulates_error (simulates_beginName hframes octet)
    | name t => exact hphase.elim
    | colon =>
      refine simulates_ite (hplain trivial) ?_
      exact simulates_ite (hplain trivial) simulates_error
    | literal rest v =>
      have hcomplete := simulates_ok (hframes.follows_deliver (.same (root.at? frames) v))
      cases rest with
      | nil => exact hcomplete
      | cons letter rest =>
        refine simulates_ite simulates_error ?_
        exact simulates_ite hcomplete (hplain trivial)
    | number n => exact simulates_number hframes n octet
    | string t => exact hphase.elim
    | separator =>
      have hsame : Follows root ⟨frames, .separator⟩ ⟨frames', .separator⟩ := ⟨hframes, .same trivial⟩
      exact hsame.simulates_afterValue octet
    | done v => exact hphase.elim

theorem exists_run (h : Follows root s s') {count : Nat} {octets : List UInt8} {s₁ : State}
    (hrun : s.run (fun _ => false) count octets = .ok s₁) :
    ∃ s₁', s'.run root.skim count octets = .ok s₁' ∧ Follows root s₁ s₁' := by
  induction octets generalizing s s' count with
  | nil =>
    cases hrun
    exact ⟨s', rfl, h⟩
  | cons octet rest ih =>
    unfold State.run at hrun ⊢
    cases hstep : s.step (fun _ => false) octet with
    | error e =>
      rw [hstep] at hrun
      cases hrun
    | ok next =>
      rw [hstep] at hrun
      obtain ⟨next', hstep', hnext⟩ := h.simulates_step octet next hstep
      rw [hstep']
      exact ih hnext hrun

theorem exists_finish (h : Follows root s s') (hv : s.finish (fun _ => false) = .ok v) :
    ∃ v', s'.finish root.skim = .ok v' ∧ Agrees (some root) v v' := by
  obtain ⟨frames, phase⟩ := s
  obtain ⟨frames', phase'⟩ := s'
  obtain ⟨hframes, hphase⟩ := h
  unfold State.finish at hv ⊢
  dsimp only at hframes hphase hv ⊢
  cases hphase with
  | same hphase =>
    cases phase with
    | number n =>
      dsimp only at hv ⊢
      cases hvalue : n.valueOr false with
      | ok w =>
        rw [hvalue] at hv
        rw [Numeral.valueOr_skim hvalue]
        dsimp only at hv ⊢
        split at hv
        . next hempty =>
          cases hv
          cases hframes with
          | nil => exact ⟨v, rfl, .same ..⟩
          | _ => cases hempty
        . cases hv
      | error f =>
        rw [hvalue] at hv
        cases hv
    | name t => exact hphase.elim
    | string t => exact hphase.elim
    | done w => exact hphase.elim
    | _ => cases hv
  | name ht => cases hv
  | string ht => cases hv
  | done hagrees =>
    cases hv
    exact ⟨_, rfl, hagrees⟩

end Follows

theorem exists_readShape_eq_ok {octets : List UInt8} (h : read octets = .ok v) (root : Shape) :
    ∃ v', readShape root octets = .ok v' ∧ Agrees (some root) v v' := by
  have hstart : Follows root State.start State.start := ⟨.nil, .same trivial⟩
  unfold read readSkimming at h
  change ∃ v', readSkimming root.skim octets = .ok v' ∧ _
  unfold readSkimming
  cases hrun : State.start.run (fun _ => false) 0 octets with
  | error e =>
    rw [hrun] at h
    cases h
  | ok s =>
    rw [hrun] at h
    obtain ⟨s', hrun', hs⟩ := hstart.exists_run hrun
    rw [hrun']
    dsimp only at h ⊢
    cases hfinish : s.finish (fun _ => false) with
    | error f =>
      rw [hfinish] at h
      cases h
    | ok w =>
      rw [hfinish] at h
      cases h
      obtain ⟨v', hfinish', hagrees⟩ := hs.exists_finish hfinish
      rw [hfinish']
      exact ⟨v', rfl, hagrees⟩

end LockFleet.Json
