import LockFleet.Proofs.Json.Numbers

/-!
This module contains the proof that blanks around a text do not matter to the reader, whether the text has a
value or not: blanks in front of it are passed over, and blanks behind it neither complete what was cut off
nor break what is complete.
-/

namespace LockFleet.Json

def IsPadding (octets : List UInt8) : Prop :=
  ∀ octet ∈ octets, octet ∈ [0x20, 0x09, 0x0D, 0x0A]

instance (octets : List UInt8) : Decidable (IsPadding octets) :=
  octets.decidableBAll _

theorem isSpace_of_mem_padding {octet : UInt8} (h : octet ∈ [0x20, 0x09, 0x0D, 0x0A]) :
    State.isSpace octet = true := by
  simp only [List.mem_cons, List.not_mem_nil, or_false] at h
  rcases h with rfl | rfl | rfl | rfl <;> rfl

namespace StringToken

def Step.IsOpen : Step → Prop
  | .closed _ => False
  | _ => True

variable {octet : UInt8} {t : StringToken}

theorem isOpen_plainStep (h : octet ≠ 0x22) : (t.plainStep octet).IsOpen := by
  unfold plainStep plainStep.feed
  rw [if_neg h]
  split
  . trivial
  . split
    . trivial
    . split
      . trivial
      . split <;> trivial
      . split <;> trivial

theorem isOpen_unitStep (skim : Bool) (lead : Option Nat) (n : Nat) :
    (t.unitStep skim lead n).IsOpen := by
  unfold unitStep
  split
  . trivial
  . split
    . split
      . trivial
      . split <;> trivial
    . split <;> trivial

theorem isOpen_step (h : octet ≠ 0x22) (skim : Bool) (t : StringToken) :
    (t.step skim octet).IsOpen := by
  unfold step
  split
  . exact isOpen_plainStep h
  . split
    . trivial
    . split <;> trivial
  . dsimp only
    split
    . trivial
    . split
      . exact isOpen_unitStep ..
      . trivial
  . split <;> trivial
  . split <;> trivial

end StringToken

def Phase.AwaitsLetter : Phase → Prop
  | .literal rest _ => rest ≠ [] ∧ rest.any State.isSpace = false
  | _ => True

namespace State

variable {s s' : State} {octet : UInt8} {octets : List UInt8}

theorem awaitsLetter_deliver (frames : List Frame) (v : Json) :
    (deliver frames v).phase.AwaitsLetter := by
  unfold deliver
  split <;> trivial

theorem awaitsLetter_close (frames : List Frame) : (close frames).phase.AwaitsLetter := by
  unfold close
  split
  . exact awaitsLetter_deliver ..
  . exact awaitsLetter_deliver ..
  . trivial

def Continues (outcome : Except Stop State) : Prop :=
  ∀ s, outcome = .ok s → s.phase.AwaitsLetter

theorem continues_ok (h : s.phase.AwaitsLetter) : Continues (.ok s) := by
  rintro _ ⟨⟩
  exact h

theorem continues_error {e : Stop} : Continues (.error e) := by
  intro s h
  cases h

theorem continues_ite {p : Prop} [Decidable p] {outcome other : Except Stop State}
    (h : Continues outcome) (hother : Continues other) : Continues (if p then outcome else other) := by
  split
  . exact h
  . exact hother

theorem continues_enter (skim : Skim) (frames : List Frame) (frame : Frame) {phase : Phase}
    (h : phase.AwaitsLetter) : Continues (enter skim frames frame phase) :=
  continues_ite continues_error (continues_ok h)

theorem continues_beginValue (skim : Skim) (frames : List Frame) (octet : UInt8) :
    Continues (beginValue skim frames octet) := by
  unfold beginValue
  split
  . exact continues_ok ⟨by decide, by decide⟩
  . exact continues_ok ⟨by decide, by decide⟩
  . exact continues_ok ⟨by decide, by decide⟩
  . exact continues_ok trivial
  . exact continues_ok trivial
  . exact continues_enter skim frames _ trivial
  . exact continues_enter skim frames _ trivial
  . split
    . exact continues_ok trivial
    . exact continues_error

theorem continues_afterValue (h : s.phase.AwaitsLetter) (octet : UInt8) :
    Continues (s.afterValue octet) := by
  have hclose := continues_ok (awaitsLetter_close s.frames)
  unfold afterValue
  refine continues_ite (continues_ok h) ?_
  split
  . exact continues_error
  . exact continues_ite (continues_ok trivial) (continues_ite hclose continues_error)
  . exact continues_ite (continues_ok trivial) (continues_ite hclose continues_error)

theorem continues_beginName (s : State) (octet : UInt8) : Continues (s.beginName octet) :=
  continues_ite (continues_ok trivial) continues_error

theorem continues_step (h : s.phase.AwaitsLetter) (skim : Skim) (octet : UInt8) :
    Continues (s.step skim octet) := by
  obtain ⟨frames, phase⟩ := s
  have hblank := continues_ok h
  have hclose := continues_ok (awaitsLetter_close frames)
  have hvalue := continues_beginValue skim frames octet
  unfold step
  cases phase with
  | value => exact continues_ite hblank hvalue
  | firstItem => exact continues_ite hblank (continues_ite hclose hvalue)
  | nextItem => exact continues_ite hblank (continues_ite continues_error hvalue)
  | firstName =>
    refine continues_ite hblank ?_
    exact continues_ite hclose (continues_beginName _ octet)
  | nextName =>
    refine continues_ite hblank ?_
    exact continues_ite continues_error (continues_beginName _ octet)
  | name t =>
    dsimp only
    split
    . exact continues_ok trivial
    . unfold nameRead
      split <;> exact continues_ok trivial
    . exact continues_error
  | colon =>
    refine continues_ite hblank ?_
    exact continues_ite (continues_ok trivial) continues_error
  | literal rest v =>
    have hcomplete := continues_ok (awaitsLetter_deliver frames v)
    dsimp only
    split
    . exact hcomplete
    . next letter rest =>
      refine continues_ite continues_error ?_
      split
      . exact hcomplete
      . next hrest =>
        refine continues_ok ⟨by simpa using hrest, ?_⟩
        exact (Bool.or_eq_false_iff.1 h.2).2
  | number n =>
    dsimp only
    split
    . exact continues_ok trivial
    . exact continues_error
    . split
      . exact continues_afterValue (awaitsLetter_deliver frames _) octet
      . exact continues_error
  | string t =>
    dsimp only
    split
    . exact continues_ok trivial
    . exact continues_ok (awaitsLetter_deliver frames _)
    . exact continues_error
  | separator => exact continues_afterValue h octet
  | done v => exact continues_afterValue h octet

theorem awaitsLetter_of_next? (h : s.phase.AwaitsLetter) (hnext : s.next? octet = some s') :
    s'.phase.AwaitsLetter := by
  have hstep := continues_step h (fun _ => false) octet
  unfold next? at hnext
  cases hs : s.step (fun _ => false) octet with
  | error e =>
    rw [hs] at hnext
    cases hnext
  | ok s'' =>
    rw [hs] at hnext
    cases hnext
    exact hstep s' hs

theorem awaitsLetter_of_foldlM (h : s.phase.AwaitsLetter)
    (hnext : octets.foldlM next? s = some s') : s'.phase.AwaitsLetter := by
  induction octets generalizing s with
  | nil =>
    cases hnext
    exact h
  | cons octet octets ih =>
    obtain ⟨s₁, hfirst, hrest⟩ := Option.bind_eq_some_iff.1 hnext
    exact ih (awaitsLetter_of_next? h hfirst) hrest

theorem value?_nil_deliver (frames : List Frame) (v : Json) :
    (deliver frames v).value? [] = if frames.isEmpty then some v else none := by
  unfold deliver
  split <;> rfl

theorem value?_blank_token {phase : StringToken → Phase}
    (hphase : phase = .string ∨ phase = .name) (hquote : octet ≠ 0x22) (frames : List Frame)
    (t : StringToken) : value? ⟨frames, phase t⟩ [octet] = value? ⟨frames, phase t⟩ [] := by
  have hopen := StringToken.isOpen_step hquote false t
  rw [value?_cons]
  unfold next? step
  cases hstep : t.step false octet with
  | more t => rcases hphase with rfl | rfl <;> dsimp only <;> rw [hstep] <;> rfl
  | closed text =>
    rw [hstep] at hopen
    exact hopen.elim
  | stop e => rcases hphase with rfl | rfl <;> dsimp only <;> rw [hstep] <;> rfl

theorem value?_nil_number (frames : List Frame) (n : Numeral) :
    value? ⟨frames, .number n⟩ [] =
      match n.valueOr false with
      | .ok v => (deliver frames v).value? []
      | .error _ => none := by
  change (finish (fun _ => false) ⟨frames, .number n⟩).toOption = _
  unfold finish
  dsimp only
  cases n.valueOr false with
  | ok v =>
    dsimp only
    rw [value?_nil_deliver]
    split <;> rfl
  | error f => rfl

theorem value?_blank_number (hspace : isSpace octet = true) (frames : List Frame) (n : Numeral) :
    value? ⟨frames, .number n⟩ [octet] = value? ⟨frames, .number n⟩ [] := by
  have hdelimiter : isDelimiter octet = true := by simp [isDelimiter, hspace]
  rw [value?_cons, value?_nil_number]
  unfold next? step
  dsimp only
  rw [Numeral.step_of_isDelimiter hdelimiter]
  cases hopen : n.isOpen with
  | true =>
    rw [Numeral.valueOr_of_isOpen hopen]
    rfl
  | false =>
    rw [if_neg Bool.false_ne_true]
    dsimp only
    cases n.valueOr false with
    | ok v =>
      dsimp only
      rw [← next?_deliver, passesBlanks_deliver frames v octet hspace, Option.bind_some]
    | error f => rfl

theorem value?_blank (h : s.phase.AwaitsLetter) (hspace : isSpace octet = true) :
    s.value? [octet] = s.value? [] := by
  have hquote : octet ≠ 0x22 := by
    rintro rfl
    cases hspace
  have hpasses : s.PassesBlanks → s.value? [octet] = s.value? [] := by
    intro hpasses
    rw [value?_cons, hpasses octet hspace, Option.bind_some]
  obtain ⟨frames, phase⟩ := s
  cases phase with
  | name t => exact value?_blank_token (.inr rfl) hquote frames t
  | string t => exact value?_blank_token (.inl rfl) hquote frames t
  | number n => exact value?_blank_number hspace frames n
  | literal rest v =>
    -- A blank is not the letter that is missing, so both texts are at fault.
    obtain ⟨hne, hletters⟩ := h
    obtain ⟨letter, rest, rfl⟩ := List.exists_cons_of_ne_nil hne
    have hwrong : octet ≠ letter := by
      rintro rfl
      rw [(Bool.or_eq_false_iff.1 hletters).1] at hspace
      cases hspace
    rw [value?_cons]
    unfold next? step
    dsimp only
    rw [if_pos hwrong]
    rfl
  | _ => exact hpasses (passesBlanks_of_phase (by simp))

theorem value?_padding (h : s.phase.AwaitsLetter) (hpadding : IsPadding octets) :
    s.value? octets = s.value? [] := by
  induction octets generalizing s with
  | nil => rfl
  | cons octet octets ih =>
    have hrest : IsPadding octets := fun o ho => hpadding o (List.mem_cons_of_mem _ ho)
    have hblank := value?_blank h (isSpace_of_mem_padding (hpadding octet List.mem_cons_self))
    rw [value?_cons] at hblank ⊢
    rw [← hblank]
    apply Option.bind_congr
    intro s' hnext
    exact ih (awaitsLetter_of_next? h hnext) hrest

theorem PassesBlanks.value?_append (h : s.PassesBlanks) {padding : List UInt8}
    (hpadding : IsPadding padding) (octets : List UInt8) :
    s.value? (padding ++ octets) = s.value? octets := by
  induction padding with
  | nil => rfl
  | cons octet padding ih =>
    have hrest : IsPadding padding := fun o ho => hpadding o (List.mem_cons_of_mem _ ho)
    rw [List.cons_append, value?_cons, h octet (isSpace_of_mem_padding (hpadding octet List.mem_cons_self)),
      Option.bind_some, ih hrest]

end State

theorem read_padded_eq_ok_iff {before octets after : List UInt8} (hbefore : IsPadding before)
    (hafter : IsPadding after) {v : Json} :
    read (before ++ octets ++ after) = .ok v ↔ read octets = .ok v := by
  have hstart : State.start.PassesBlanks := State.passesBlanks_of_phase (.inl rfl)
  have hpadded : State.start.value? (before ++ octets ++ after) = State.start.value? octets := by
    rw [List.append_assoc, hstart.value?_append hbefore, State.value?_append,
      ← List.append_nil octets, State.value?_append, List.append_nil]
    apply Option.bind_congr
    intro s hs
    have hletter : State.start.phase.AwaitsLetter := trivial
    exact State.value?_padding (State.awaitsLetter_of_foldlM hletter hs) hafter
  rw [read_eq_ok_iff, read_eq_ok_iff, hpadded]

end LockFleet.Json
