import LockFleet.Json.Shape
import LockFleet.Proofs.Body

/-!
This module contains the proof that one member of a body decides what is made of it. If the member gives
a word of the workflow, the command of that word is read. If it does not, there is a single issue, which
names the member and what it holds.
-/

namespace LockFleet.Body

inductive Accepts (w : Workflow) : Option Json → String → Prop where
  | named {word : String} (hword : word ∈ w.words) : Accepts w (some (.string word)) word
  | missing (hstatus : w = .status) : Accepts w none "request"
  | null (hstatus : w = .status) : Accepts w (some .null) "request"

def issueCode : Option Json → String
  | some (.string _) => "invalid_enum_value"
  | _ => "invalid_type"

structure Blames (w : Workflow) (v : Option Json) (i : Issue) : Prop where
  path : i.path = w.field
  expected : i.expected = w.words
  received : i.received = v.getD .null
  code : i.code = issueCode v

def judge (w : Workflow) : Option Json → Except ValidationError Command
  | some (.string word) =>
    match w.command? word with
    | some c => .ok c
    | none => .error (.single (.notOneOf w.field w.words word))
  | none | some .null =>
    match w.default? with
    | some c => .ok c
    | none => .error (.single (.missing w.field w.words))
  | some v => .error (.single (.notString w.field w.words v))

variable {w : Workflow} {body : List UInt8} {members : Members} {v : Option Json} {c : Command}

theorem command_of_decode_eq_error {e : ValidationError} (h : decode body = .error e) :
    command w body = .error e := by
  unfold command
  rw [h]

theorem command_of_decode_eq_ok (h : decode body = .ok members) :
    command w body = judge w (Json.member? members w.field) := by
  unfold command requiredCommand optionalCommand judge
  rw [h]
  dsimp only
  cases Json.member? members w.field with
  | none => cases w <;> rfl
  | some v =>
    cases v with
    | null => cases w <;> rfl
    | string word =>
      dsimp only
      cases w.command? word <;> cases w <;> rfl
    | bool b => cases w <;> rfl
    | integer n => cases w <;> rfl
    | real x => cases w <;> rfl
    | array items => cases w <;> rfl
    | object members => cases w <;> rfl

theorem mem_words_of_command? {word : String} (h : w.command? word = some c) : word ∈ w.words := by
  have hword := List.find?_some h
  exact List.mem_map.2 ⟨c, List.mem_of_find?_eq_some h, beq_iff_eq.1 hword⟩

theorem exists_command?_eq_some {word : String} (h : word ∈ w.words) :
    ∃ c, w.command? word = some c := by
  obtain ⟨c, hc, hword⟩ := List.mem_map.1 h
  apply Option.isSome_iff_exists.1
  exact List.find?_isSome.2 ⟨c, hc, beq_iff_eq.2 hword⟩

theorem accepts_of_judge (h : judge w v = .ok c) : c.workflow = w ∧ Accepts w v c.word := by
  have implied : ∀ {v}, (v = none ∨ v = some .null) → w.default? = some c →
      c.workflow = w ∧ Accepts w v c.word := by
    intro v hv hdefault
    -- Only requests for the status have a default.
    cases w <;> cases hdefault
    rcases hv with rfl | rfl
    . exact ⟨rfl, .missing rfl⟩
    . exact ⟨rfl, .null rfl⟩
  unfold judge at h
  split at h
  . next word =>
    split at h
    . next hcommand =>
      cases h
      obtain ⟨hworkflow, hword⟩ := Workflow.workflow_and_word_of_command? hcommand
      refine ⟨hworkflow, ?_⟩
      rw [hword]
      exact .named (mem_words_of_command? hcommand)
    . cases h
  . split at h
    . next hdefault =>
      cases h
      exact implied (.inl rfl) hdefault
    . cases h
  . split at h
    . next hdefault =>
      cases h
      exact implied (.inr rfl) hdefault
    . cases h
  . cases h

theorem judge_of_accepts {word : String} (h : Accepts w v word) :
    ∃ c, judge w v = .ok c ∧ c.workflow = w ∧ c.word = word := by
  cases h with
  | named hword =>
    obtain ⟨c, hc⟩ := exists_command?_eq_some hword
    refine ⟨c, ?_, Workflow.workflow_and_word_of_command? hc⟩
    unfold judge
    dsimp only
    rw [hc]
  | missing hstatus =>
    subst hstatus
    exact ⟨.requestStatus, rfl, rfl, rfl⟩
  | null hstatus =>
    subst hstatus
    exact ⟨.requestStatus, rfl, rfl, rfl⟩

theorem blames_of_judge {e : ValidationError} (h : judge w v = .error e) :
    ∃ i, e = .single i ∧ Blames w v i := by
  unfold judge at h
  split at h
  . split at h <;> cases h
    exact ⟨_, rfl, rfl, rfl, rfl, rfl⟩
  . split at h <;> cases h
    exact ⟨_, rfl, rfl, rfl, rfl, rfl⟩
  . split at h <;> cases h
    exact ⟨_, rfl, rfl, rfl, rfl, rfl⟩
  . next hstring _ =>
    cases h
    refine ⟨_, rfl, rfl, rfl, rfl, ?_⟩
    unfold issueCode
    split
    . next word heq =>
      cases heq
      exact (hstring word rfl).elim
    . rfl

theorem command_decided_by_field (w : Workflow) (body : List UInt8) :
    (∀ e, decode body = .error e → command w body = .error e) ∧
    ∀ members, decode body = .ok members →
      ((∃ c, command w body = .ok c) ↔
        ∃ word, Accepts w (Json.member? members w.field) word) ∧
      (∀ c, command w body = .ok c →
        c.workflow = w ∧ Accepts w (Json.member? members w.field) c.word) ∧
      (∀ e, command w body = .error e →
        ∃ i, e = .single i ∧ Blames w (Json.member? members w.field) i) ∧
      ∀ other members', decode other = .ok members' →
        Json.member? members' w.field = Json.member? members w.field →
        command w other = command w body := by
  refine ⟨fun e => command_of_decode_eq_error, ?_⟩
  intro members hbody
  rw [command_of_decode_eq_ok hbody]
  refine ⟨⟨?_, ?_⟩, fun c => accepts_of_judge, fun e => blames_of_judge, ?_⟩
  . rintro ⟨c, hc⟩
    exact ⟨c.word, (accepts_of_judge hc).2⟩
  . rintro ⟨word, hword⟩
    obtain ⟨c, hc, -⟩ := judge_of_accepts hword
    exact ⟨c, hc⟩
  . intro other members' hother hmember
    rw [command_of_decode_eq_ok hother, hmember]

def cancelThenFly : List UInt8 :=
  Utf8.encode " \x7b\"command\": \"cancel\", \"n\": [1], \"command\": \"fly\"\x7d".toList

theorem command_decided_by_field_last_word :
    ∃ members i, decode cancelThenFly = .ok members ∧
      Json.member? members Workflow.reservation.field = some (.string "fly") ∧
      command .reservation cancelThenFly = .error (.single i) ∧
      Blames .reservation (some (.string "fly")) i := by
  have hword : ((decode cancelThenFly).toOption.bind fun members =>
      (Json.member? members Workflow.reservation.field).bind Json.string?) = some "fly" := by
    decide +kernel
  have hrefused : (command .reservation cancelThenFly).toOption = none := by
    decide +kernel
  obtain ⟨members, hbody, hmember⟩ := Option.bind_eq_some_iff.1 hword
  obtain ⟨v, hmember, hstring⟩ := Option.bind_eq_some_iff.1 hmember
  cases v <;> cases hstring
  cases hdecode : decode cancelThenFly with
  | error e =>
    rw [hdecode] at hbody
    cases hbody
  | ok members' =>
    rw [hdecode] at hbody
    cases hbody
    cases hcommand : command .reservation cancelThenFly with
    | ok c =>
      rw [hcommand] at hrefused
      cases hrefused
    | error e =>
      obtain ⟨-, -, hblames, -⟩ :=
        (command_decided_by_field .reservation cancelThenFly).2 _ hdecode
      obtain ⟨i, rfl, hblames⟩ := hblames e hcommand
      exact ⟨_, i, rfl, hmember, rfl, hmember ▸ hblames⟩

end LockFleet.Body
