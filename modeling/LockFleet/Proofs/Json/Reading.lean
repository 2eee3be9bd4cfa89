import LockFleet.Proofs.Json.Numbers
import LockFleet.Proofs.Json.Strings

/-!
This module contains the proof that a value is read from each text that writes it, if its arrays and
objects are not nested too deep, and that there is a fault in the text otherwise.
-/

namespace LockFleet.Json

open State (deliver Completes maxDepth)

/--
A text is read as a value, member for member. The value fits into the arrays and objects that are open
around it, or there is a fault.
-/
def ReadsAs (v : Json) (text : List Char) : Prop :=
  ∀ s : State, s.IsReady → s.frames.length ≤ maxDepth →
    Yields (s.frames.length + v.depth ≤ maxDepth) (Completes s.frames v) (s.read? text)

def ItemsReadAs (items : List Json) (text : List Char) : Prop :=
  ∀ before rest phase, phase = .firstItem ∨ phase = .nextItem → rest.length < maxDepth →
    Yields (rest.length + 1 + depthItems items ≤ maxDepth)
      (· = deliver rest (.array (before.reverse ++ items)))
      (State.read? ⟨.items before :: rest, phase⟩ (text ++ [']']))

def MemberReadAs (m : String × Json) (text : List Char) : Prop :=
  ∀ before rest phase, phase = .firstName ∨ phase = .nextName → rest.length < maxDepth →
    Yields (rest.length + 1 + m.2.depth ≤ maxDepth) (Completes (.member before m.1 :: rest) m.2)
      (State.read? ⟨.members before :: rest, phase⟩ text)

def MembersReadAs (members : List (String × Json)) (text : List Char) : Prop :=
  ∀ before rest phase, phase = .firstName ∨ phase = .nextName → rest.length < maxDepth →
    Yields (rest.length + 1 + depthMembers members ≤ maxDepth)
      (· = deliver rest (.object (before.reverse ++ members)))
      (State.read? ⟨.members before :: rest, phase⟩ (text ++ ['}']))

def Reads (v : Json) (text : List Char) : Prop :=
  ∃ raw, raw.normalize = v ∧ raw.depth = v.depth ∧ ReadsAs raw text

def ReadsItems (items : List Json) (text : List Char) : Prop :=
  ∃ raws, normalizeItems raws = items ∧ depthItems raws = depthItems items ∧ ItemsReadAs raws text

def ReadsMember (m : String × Json) (text : List Char) : Prop :=
  ∃ raw, raw.normalize = m.2 ∧ raw.depth = m.2.depth ∧ MemberReadAs (m.1, raw) text

def ReadsMembers (members : List (String × Json)) (text : List Char) : Prop :=
  ∃ raws, normalizeMembers raws = members ∧ depthMembers raws = depthMembers members ∧
    MembersReadAs raws text

variable {s : State} {frames rest : List Frame} {v : Json} {text restText : List Char}
  {items : List Json} {m : String × Json} {members written : List (String × Json)}

theorem readsAs_of_depth_eq_zero (hdepth : v.depth = 0)
    (h : ∀ s : State, s.IsReady → ∃ s', s.read? text = some s' ∧ Completes s.frames v s') :
    ReadsAs v text := by
  intro s hs hframes
  obtain ⟨s', hread, hcompletes⟩ := h s hs
  exact .of_eq_some (by omega) hread hcompletes

theorem readsAs_of_read?_eq_deliver (hdepth : v.depth = 0)
    (h : ∀ s : State, s.IsReady → s.read? text = some (deliver s.frames v)) : ReadsAs v text := by
  apply readsAs_of_depth_eq_zero hdepth
  intro s hs
  exact ⟨_, h s hs, State.completes_deliver s.frames v⟩

theorem State.IsReady.next?_of_beginValue (h : s.IsReady) {octet : UInt8} {s' : State}
    (hspace : State.isSpace octet = false) (hbracket : octet ≠ 0x5D)
    (hbegin : State.beginValue (fun _ => false) s.frames octet = .ok s') : s.next? octet = some s' := by
  rw [h.next?_eq hspace hbracket, hbegin]
  rfl

theorem State.foldlM_next?_literal {octets : List UInt8} (h : octets ≠ []) (frames : List Frame)
    (v : Json) :
    octets.foldlM State.next? ⟨frames, .literal octets v⟩ = some (deliver frames v) := by
  induction octets with
  | nil => exact absurd rfl h
  | cons octet octets ih =>
    rw [List.foldlM_cons]
    unfold State.next? State.step
    dsimp only
    rw [if_neg (by simp)]
    cases octets with
    | nil => rfl
    | cons octet' octets => exact ih (by simp)

theorem readsAs_literal {c : Char} {letters : List Char} (hdepth : v.depth = 0)
    (hc : c.toNat < 0x80) (hletters : Utf8.encode letters ≠ [])
    (hspace : State.isSpace (UInt8.ofNat c.toNat) = false) (hbracket : UInt8.ofNat c.toNat ≠ 0x5D)
    (hbegin : ∀ frames, State.beginValue (fun _ => false) frames (UInt8.ofNat c.toNat)
      = .ok ⟨frames, .literal (Utf8.encode letters) v⟩) : ReadsAs v (c :: letters) := by
  apply readsAs_of_read?_eq_deliver hdepth
  intro s hs
  rw [State.read?_cons hc, hs.next?_of_beginValue hspace hbracket (hbegin s.frames), Option.bind_some]
  exact State.foldlM_next?_literal hletters s.frames v

theorem readsAs_null : ReadsAs .null ['n', 'u', 'l', 'l'] := by
  apply readsAs_literal rfl <;> first | decide | exact fun _ => rfl

theorem readsAs_true : ReadsAs (.bool true) ['t', 'r', 'u', 'e'] := by
  apply readsAs_literal rfl <;> first | decide | exact fun _ => rfl

theorem readsAs_false : ReadsAs (.bool false) ['f', 'a', 'l', 's', 'e'] := by
  apply readsAs_literal rfl <;> first | decide | exact fun _ => rfl

theorem readsAs_integer {n : Int} (hleast : -(maxSigned + 1) ≤ n) (hmost : n ≤ maxWord) :
    ReadsAs (.integer n) (Text.integerText n) := by
  apply readsAs_of_depth_eq_zero rfl
  intro s hs
  exact hs.exists_read?_integer hleast hmost

theorem State.read?_token {phase : StringToken → Phase} (hphase : phase = .string ∨ phase = .name)
    {t t' : StringToken} (h : t.read? text = some t') (frames : List Frame) :
    State.read? ⟨frames, phase t⟩ text = some ⟨frames, phase t'⟩ := by
  unfold StringToken.read? at h
  unfold State.read?
  generalize Utf8.encode text = octets at h ⊢
  induction octets generalizing t with
  | nil =>
    cases h
    rfl
  | cons octet octets ih =>
    obtain ⟨t₁, hnext, hrest⟩ := Option.bind_eq_some_iff.1 h
    rw [List.foldlM_cons]
    refine Option.bind_eq_some_iff.2 ⟨_, ?_, ih hrest⟩
    unfold StringToken.next? at hnext
    split at hnext
    . next hstep =>
      cases hnext
      unfold State.next? State.step
      rcases hphase with rfl | rfl <;> dsimp only <;> rw [hstep] <;> rfl
    . cases hnext

theorem State.read?_quoted {phase : StringToken → Phase} (hphase : phase = .string ∨ phase = .name)
    {chars : List Char} (h : SpellsChars chars text) (frames : List Frame) :
    State.read? ⟨frames, phase .start⟩ (text ++ ['"'])
      = State.next? ⟨frames, phase (.between chars.reverse)⟩ 0x22 := by
  have htoken := StringToken.read?_of_spellsChars h []
  rw [List.append_nil] at htoken
  rw [State.read?_append, State.read?_token (t := .start) hphase htoken, Option.bind_some,
    State.read?_cons (by decide)]
  exact Option.bind_fun_some _

theorem readsAs_string {string : String} (h : SpellsString string text) :
    ReadsAs (.string string) text := by
  apply readsAs_of_read?_eq_deliver rfl
  intro s hs
  cases h with
  | quoted h =>
    have hclose : State.next? ⟨s.frames, .string (.between string.toList.reverse)⟩ 0x22
        = some (deliver s.frames (.string (String.ofList string.toList.reverse.reverse))) :=
      rfl
    rw [List.reverse_reverse, String.ofList_toList] at hclose
    rw [List.cons_append, State.read?_cons (by decide),
      hs.next?_of_beginValue (by decide) (by decide) rfl, Option.bind_some, ← hclose]
    exact State.read?_quoted (.inl rfl) h s.frames

theorem ReadsAs.padded {before after : List Char} (hbefore : IsBlank before) (h : ReadsAs v text)
    (hafter : IsBlank after) : ReadsAs v (before ++ text ++ after) := by
  intro s hs hframes
  rw [State.read?_append, State.read?_append, hs.passesBlanks.read?_eq hbefore, Option.bind_some]
  exact (h s hs hframes).map fun s' hs' => hs'.exists_read?_blank hafter

theorem itemsReadAs_single (h : ReadsAs v text) : ItemsReadAs [v] text := by
  intro before rest phase hphase hrest
  rw [State.read?_append]
  refine ((h ⟨.items before :: rest, phase⟩ (.inr hphase) hrest).map ?_).congr (by simp [depthItems])
  intro s hs
  exact ⟨_, hs.read?_bracket, rfl⟩

theorem itemsReadAs_cons (h : ReadsAs v text) (hitems : ItemsReadAs items restText) :
    ItemsReadAs (v :: items) (text ++ ',' :: restText) := by
  intro before rest phase hphase hrest
  rw [List.append_assoc, State.read?_append, List.cons_append]
  have hfits : rest.length + 1 + depthItems (v :: items) ≤ maxDepth
      ↔ rest.length + 1 + v.depth ≤ maxDepth ∧ rest.length + 1 + depthItems items ≤ maxDepth := by
    simp only [depthItems]
    omega
  refine ((h ⟨.items before :: rest, phase⟩ (.inr hphase) hrest).bind ?_).congr hfits
  intro s hs
  rw [hs.read?_comma]
  have hnext := hitems (v :: before) rest .nextItem (.inr rfl) hrest
  rwa [List.reverse_cons, List.append_assoc] at hnext

theorem State.IsReady.next?_open (h : s.IsReady) {octet : UInt8} {frame : Frame} {phase : Phase}
    (hspace : State.isSpace octet = false) (hbracket : octet ≠ 0x5D)
    (hbegin : State.beginValue (fun _ => false) s.frames octet
      = State.enter (fun _ => false) s.frames frame phase) :
    s.next? octet = if s.frames.length < maxDepth then some ⟨frame :: s.frames, phase⟩ else none := by
  rw [h.next?_eq hspace hbracket, hbegin]
  unfold State.enter
  split
  . next hfull =>
    rw [if_neg (by omega)]
    rfl
  . next hroom =>
    rw [if_pos (by simp at hroom; omega)]
    rfl

theorem readsAs_of_open {c : Char} {frame : Frame} {phase : Phase} (depth : Nat)
    (hc : c.toNat < 0x80) (hspace : State.isSpace (UInt8.ofNat c.toNat) = false)
    (hbracket : UInt8.ofNat c.toNat ≠ 0x5D)
    (hbegin : ∀ frames, State.beginValue (fun _ => false) frames (UInt8.ofNat c.toNat)
      = State.enter (fun _ => false) frames frame phase)
    (hdepth : v.depth = depth + 1)
    (h : ∀ frames : List Frame, frames.length < maxDepth →
      Yields (frames.length + 1 + depth ≤ maxDepth) (· = deliver frames v)
        (State.read? ⟨frame :: frames, phase⟩ text)) :
    ReadsAs v (c :: text) := by
  intro s hs hframes
  rw [State.read?_cons hc, hs.next?_open hspace hbracket (hbegin s.frames)]
  split
  . next hroom =>
    rw [Option.bind_some]
    refine Yields.congr ((h s.frames hroom).mono ?_) (by rw [hdepth]; omega)
    rintro s' rfl
    exact State.completes_deliver s.frames v
  . next hfull => exact ⟨fun hfits => by omega, fun _ => rfl⟩

theorem readsAs_emptyArray (h : IsBlank text) : ReadsAs (.array []) ('[' :: text ++ [']']) := by
  rw [List.cons_append]
  refine readsAs_of_open 0 (by decide) (by decide) (by decide) (fun _ => rfl) rfl ?_
  intro frames hframes
  have hblank : State.PassesBlanks ⟨.items [] :: frames, .firstItem⟩ :=
    State.passesBlanks_of_phase (by simp)
  have hclose : State.read? ⟨.items [] :: frames, .firstItem⟩ [']']
      = some (deliver frames (.array [])) := by
    rw [State.read?_cons (by decide)]
    rfl
  rw [State.read?_append, hblank.read?_eq h, Option.bind_some]
  exact .of_eq_some hframes hclose rfl

theorem readsAs_array (h : ItemsReadAs items text) :
    ReadsAs (.array items) ('[' :: text ++ [']']) := by
  rw [List.cons_append]
  refine readsAs_of_open (depthItems items) (by decide) (by decide) (by decide) (fun _ => rfl) rfl ?_
  intro frames hframes
  exact h [] frames .firstItem (.inl rfl) hframes

theorem passesBlanks_of_name_phase {phase : Phase} (h : phase = .firstName ∨ phase = .nextName)
    (frames : List Frame) : State.PassesBlanks ⟨frames, phase⟩ := by
  apply State.passesBlanks_of_phase
  rcases h with rfl | rfl <;> simp

theorem State.read?_name {phase : Phase} (hphase : phase = .firstName ∨ phase = .nextName)
    {name : String} (h : SpellsString name text) (before : List (String × Json))
    (rest : List Frame) :
    State.read? ⟨.members before :: rest, phase⟩ text
      = some ⟨.member before name :: rest, .colon⟩ := by
  cases h with
  | quoted h =>
    have hopen : State.next? ⟨.members before :: rest, phase⟩ (UInt8.ofNat '"'.toNat)
        = some ⟨.members before :: rest, .name .start⟩ := by
      rcases hphase with rfl | rfl <;> rfl
    have hclose : State.next? ⟨.members before :: rest, .name (.between name.toList.reverse)⟩ 0x22
        = some ⟨.member before (String.ofList name.toList.reverse.reverse) :: rest, .colon⟩ :=
      rfl
    rw [List.reverse_reverse, String.ofList_toList] at hclose
    rw [List.cons_append, State.read?_cons (by decide), hopen, Option.bind_some, ← hclose]
    exact State.read?_quoted (.inr rfl) h _

theorem memberReadAs {name : String} {before nameText after : List Char} (hbefore : IsBlank before)
    (hname : SpellsString name nameText) (hafter : IsBlank after) (h : ReadsAs v text) :
    MemberReadAs (name, v) (before ++ nameText ++ after ++ ':' :: text) := by
  intro earlier rest phase hphase hrest
  have hcolon : State.PassesBlanks ⟨.member earlier name :: rest, .colon⟩ :=
    State.passesBlanks_of_phase (by simp)
  rw [State.read?_append, State.read?_append, State.read?_append,
    (passesBlanks_of_name_phase hphase _).read?_eq hbefore, Option.bind_some,
    State.read?_name hphase hname, Option.bind_some, hcolon.read?_eq hafter, Option.bind_some,
    State.read?_cons (by decide)]
  exact h ⟨.member earlier name :: rest, .value⟩ (.inl rfl) hrest

theorem membersReadAs_single (h : MemberReadAs m text) : MembersReadAs [m] text := by
  intro before rest phase hphase hrest
  rw [State.read?_append]
  refine ((h before rest phase hphase hrest).map ?_).congr (by simp [depthMembers, depthMember_eq])
  intro s hs
  exact ⟨_, hs.read?_brace, rfl⟩

theorem membersReadAs_cons (h : MemberReadAs m text) (hmembers : MembersReadAs members restText) :
    MembersReadAs (m :: members) (text ++ ',' :: restText) := by
  intro before rest phase hphase hrest
  rw [List.append_assoc, State.read?_append, List.cons_append]
  have hfits : rest.length + 1 + depthMembers (m :: members) ≤ maxDepth
      ↔ rest.length + 1 + m.2.depth ≤ maxDepth ∧ rest.length + 1 + depthMembers members ≤ maxDepth := by
    simp only [depthMembers, depthMember_eq]
    omega
  refine ((h before rest phase hphase hrest).bind ?_).congr hfits
  intro s hs
  rw [hs.read?_comma_member]
  have hnext := hmembers (m :: before) rest .nextName (.inr rfl) hrest
  rwa [List.reverse_cons, List.append_assoc] at hnext

theorem readsAs_emptyObject (h : IsBlank text) :
    ReadsAs (.object []) ('\x7b' :: text ++ ['}']) := by
  rw [List.cons_append]
  refine readsAs_of_open 0 (by decide) (by decide) (by decide) (fun _ => rfl) rfl ?_
  intro frames hframes
  have hclose : State.read? ⟨.members [] :: frames, .firstName⟩ ['}']
      = some (deliver frames (.object [])) := by
    rw [State.read?_cons (by decide)]
    rfl
  rw [State.read?_append, (passesBlanks_of_name_phase (.inl rfl) _).read?_eq h, Option.bind_some]
  exact .of_eq_some hframes hclose rfl

theorem readsAs_object (h : MembersReadAs members text) :
    ReadsAs (.object members) ('\x7b' :: text ++ ['}']) := by
  rw [List.cons_append]
  refine readsAs_of_open (depthMembers members) (by decide) (by decide) (by decide) (fun _ => rfl)
    rfl ?_
  intro frames hframes
  exact h [] frames .firstName (.inl rfl) hframes

theorem read_of_readsAs (h : ReadsAs v text) :
    (v.depth ≤ maxDepth → read (Utf8.encode text) = .ok v) ∧
    (maxDepth < v.depth → ∃ refusal, read (Utf8.encode text) = .error refusal) := by
  have hyields := h .start (.inl rfl) (Nat.zero_le _)
  have hdepth : State.start.frames.length + v.depth = v.depth := Nat.zero_add _
  rw [hdepth] at hyields
  constructor
  . intro hfits
    obtain ⟨s, hread, hs⟩ := hyields.exists_eq_some hfits
    refine read_eq_ok_iff.2 (Option.bind_eq_some_iff.2 ⟨s, hread, ?_⟩)
    rw [hs.finish rfl]
    rfl
  . intro hdeep
    have hnone := hyields.eq_none (Nat.not_le_of_lt hdeep)
    cases hread : read (Utf8.encode text) with
    | error refusal => exact ⟨refusal, rfl⟩
    | ok raw =>
      obtain ⟨s, hs, -⟩ := Option.bind_eq_some_iff.1 (read_eq_ok_iff.1 hread)
      exact absurd (hnone.symm.trans hs) (by simp)

theorem ReadsAs.reads (h : ReadsAs v text) (hnormal : v.normalize = v) : Reads v text :=
  ⟨v, hnormal, rfl, h⟩

theorem Reads.padded {before after : List Char} (hbefore : IsBlank before) (h : Reads v text)
    (hafter : IsBlank after) : Reads v (before ++ text ++ after) := by
  obtain ⟨raw, hraw, hdepth, hreads⟩ := h
  exact ⟨raw, hraw, hdepth, hreads.padded hbefore hafter⟩

theorem readsItems_single (h : Reads v text) : ReadsItems [v] text := by
  obtain ⟨raw, hraw, hdepth, hreads⟩ := h
  exact ⟨[raw], by simp [normalizeItems, hraw], by simp [depthItems, hdepth],
    itemsReadAs_single hreads⟩

theorem readsItems_cons (h : Reads v text) (hrest : ReadsItems items restText) :
    ReadsItems (v :: items) (text ++ ',' :: restText) := by
  obtain ⟨raw, hraw, hdepth, hreads⟩ := h
  obtain ⟨raws, hraws, hdepths, hitems⟩ := hrest
  exact ⟨raw :: raws, by simp [normalizeItems, hraw, hraws], by simp [depthItems, hdepth, hdepths],
    itemsReadAs_cons hreads hitems⟩

theorem reads_array (h : ReadsItems items text) : Reads (.array items) ('[' :: text ++ [']']) := by
  obtain ⟨raws, hraws, hdepths, hitems⟩ := h
  exact ⟨.array raws, by simp [normalize, hraws], by simp [depth, hdepths], readsAs_array hitems⟩

theorem readsMember {name : String} {before nameText after : List Char} (hbefore : IsBlank before)
    (hname : SpellsString name nameText) (hafter : IsBlank after) (h : Reads v text) :
    ReadsMember (name, v) (before ++ nameText ++ after ++ ':' :: text) := by
  obtain ⟨raw, hraw, hdepth, hreads⟩ := h
  exact ⟨raw, hraw, hdepth, memberReadAs hbefore hname hafter hreads⟩

theorem readsMembers_single (h : ReadsMember m text) : ReadsMembers [m] text := by
  obtain ⟨raw, hraw, hdepth, hreads⟩ := h
  exact ⟨[(m.1, raw)], by simp [normalizeMembers, normalizeMember, hraw],
    by simp [depthMembers, depthMember_eq, hdepth], membersReadAs_single hreads⟩

theorem readsMembers_cons (h : ReadsMember m text) (hrest : ReadsMembers members restText) :
    ReadsMembers (m :: members) (text ++ ',' :: restText) := by
  obtain ⟨raw, hraw, hdepth, hreads⟩ := h
  obtain ⟨raws, hraws, hdepths, hmembers⟩ := hrest
  exact ⟨(m.1, raw) :: raws, by simp [normalizeMembers, normalizeMember, hraw, hraws],
    by simp [depthMembers, depthMember_eq, hdepth, hdepths], membersReadAs_cons hreads hmembers⟩

theorem reads_object (hsorted : Ascending members) (hperm : written.Perm members)
    (h : ReadsMembers written text) : Reads (.object members) ('\x7b' :: text ++ ['}']) := by
  obtain ⟨raws, hraws, hdepths, hmembers⟩ := h
  refine ⟨.object raws, ?_, ?_, readsAs_object hmembers⟩
  . simp [normalize, hraws, sortMembers_of_perm hsorted hperm]
  . simp [depth, hdepths, depthMembers_of_perm hperm]

mutual

theorem reads_of_spells {v : Json} {text : List Char} : Spells v text → Reads v text
  | .null => readsAs_null.reads rfl
  | .true => readsAs_true.reads rfl
  | .false => readsAs_false.reads rfl
  | .integer hleast hmost => (readsAs_integer hleast hmost).reads rfl
  | .string h => (readsAs_string h).reads rfl
  | .emptyArray h => (readsAs_emptyArray h).reads rfl
  | .array h => reads_array (readsItems_of_spells h)
  | .emptyObject h => (readsAs_emptyObject h).reads rfl
  | .object hsorted hperm h => reads_object hsorted hperm (readsMembers_of_spells h)

theorem reads_of_spellsPadded {v : Json} {text : List Char} : SpellsPadded v text → Reads v text
  | .padded hbefore h hafter => (reads_of_spells h).padded hbefore hafter

theorem readsItems_of_spells {items : List Json} {text : List Char} :
    SpellsItems items text → ReadsItems items text
  | .single h => readsItems_single (reads_of_spellsPadded h)
  | .cons h hrest => readsItems_cons (reads_of_spellsPadded h) (readsItems_of_spells hrest)

theorem readsMember_of_spells {m : String × Json} {text : List Char} :
    SpellsMember m text → ReadsMember m text
  | .member hbefore hname hafter h => readsMember hbefore hname hafter (reads_of_spellsPadded h)

theorem readsMembers_of_spells {members : List (String × Json)} {text : List Char} :
    SpellsMembers members text → ReadsMembers members text
  | .single h => readsMembers_single (readsMember_of_spells h)
  | .cons h hrest => readsMembers_cons (readsMember_of_spells h) (readsMembers_of_spells hrest)

end

end LockFleet.Json
