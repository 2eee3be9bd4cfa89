import LockFleet.Api.Bodies
import LockFleet.Proofs.Body.Decision
import LockFleet.Proofs.Json.Members
import LockFleet.Proofs.Json.Skimming

/-!
This module contains the proof that a body which names a command can be read as the record that the web
interface publishes for the requests of the workflow, and that the record then holds the same command.
-/

namespace LockFleet

theorem Command.publishedName_eq_word (c : Command) : c.publishedName = c.word := by
  cases c <;> rfl

theorem Workflow.published?_eq_command? (w : Workflow) : w.published? = w.command? := by
  funext name
  unfold published? command?
  simp only [Command.publishedName_eq_word]

theorem Body.exists_read_of_decode {body : List UInt8} {members : Members}
    (hbody : body.all isBlank = false) (h : decode body = .ok members) :
    ∃ written, Json.read body = .ok (.object written) ∧
      members = Json.sortMembers (Json.normalizeMembers written) := by
  unfold decode at h
  rw [hbody, if_neg Bool.false_ne_true] at h
  split at h
  . cases h
  . next v hread =>
    cases v with
    | object written =>
      cases h
      exact ⟨written, hread, rfl⟩
    | _ => cases h

namespace Api.CommandRequest

variable {w : Workflow} {body : List UInt8} {c : Command} {v : Json} {member : Option Json}

structure StandsFor (r : CommandRequest) (w : Workflow) (c : Command) : Prop where
  workflow : r.workflow = w
  command : r.command.or w.default? = some c

theorem ofJson?_of_named {word : String} (hfields : v.fields? [w.field] = some [some (.string word)])
    (hcommand : w.command? word = some c) : ofJson? w v = some ⟨w, some c⟩ := by
  unfold ofJson?
  rw [hfields, w.published?_eq_command?]
  cases w.default? with
  | none => simp [Json.name?, hcommand]
  | some d => simp [Json.optional?, Json.name?, hcommand]

theorem ofJson?_of_implied (hfields : v.fields? [w.field] = some [member])
    (hmember : member = none ∨ member = some .null) (hdefault : w.default? = some c) :
    ofJson? w v = some ⟨w, none⟩ := by
  unfold ofJson?
  rw [hfields, hdefault]
  rcases hmember with rfl | rfl <;> rfl

theorem ofJson?_of_judge (hfields : v.fields? [w.field] = some [member])
    (h : Body.judge w (member.map Json.normalize) = .ok c) :
    ∃ r, ofJson? w v = some r ∧ r.StandsFor w c ∧
      (r.command = none ↔ member.map Json.normalize = none ∨ member.map Json.normalize = some .null) := by
  cases member with
  | none =>
    unfold Body.judge at h
    dsimp only [Option.map_none] at h
    split at h
    . next hdefault =>
      cases h
      exact ⟨_, ofJson?_of_implied hfields (.inl rfl) hdefault, ⟨rfl, hdefault⟩, by simp⟩
    . cases h
  | some u =>
    cases u with
    | null =>
      unfold Body.judge at h
      dsimp only [Option.map_some, Json.normalize] at h
      split at h
      . next hdefault =>
        cases h
        exact ⟨_, ofJson?_of_implied hfields (.inr rfl) hdefault, ⟨rfl, hdefault⟩,
          by simp [Json.normalize]⟩
      . cases h
    | string word =>
      unfold Body.judge at h
      dsimp only [Option.map_some, Json.normalize] at h
      split at h
      . next hcommand =>
        cases h
        exact ⟨_, ofJson?_of_named hfields hcommand, ⟨rfl, rfl⟩, by simp [Json.normalize]⟩
      . cases h
    | _ => cases h

theorem command_read_as_request (hbody : body.all Body.isBlank = false)
    (honce : ∀ members, Json.read body = .ok (.object members) →
      members.countP (fun m => m.1 == w.field) ≤ 1)
    (h : Body.command w body = .ok c) :
    ∃ members v r, Body.decode body = .ok members ∧ Json.readShape (shape w) body = .ok v ∧
      ofJson? w v = some r ∧ r.StandsFor w c ∧
      (r.command = none ↔
        Json.member? members w.field = none ∨ Json.member? members w.field = some .null) := by
  cases hdecode : Body.decode body with
  | error e =>
    rw [Body.command_of_decode_eq_error hdecode] at h
    cases h
  | ok members =>
    rw [Body.command_of_decode_eq_ok hdecode] at h
    obtain ⟨written, hread, rfl⟩ := Body.exists_read_of_decode hbody hdecode
    have hwritten := honce written hread
    obtain ⟨v, hshape, hagrees⟩ := Json.exists_readShape_eq_ok hread (shape w)
    have hfields : v.fields? [w.field] = some [Json.member? written w.field] := by
      rw [hagrees.fields?_eq]
      simp [Json.fields?, hwritten]
    rw [Json.member?_normalize hwritten] at h
    obtain ⟨r, hr, hstands, hnone⟩ := ofJson?_of_judge hfields h
    refine ⟨_, v, r, rfl, hshape, hr, hstands, ?_⟩
    rw [Json.member?_normalize hwritten]
    exact hnone

def escaped : List UInt8 :=
  Utf8.encode ("\x7b\"user\": \x7b\"command\": null, \"tags\": [1e3, \"\\uD83D\\uDE00\"]\x7d, " ++
    "\"\\u0063ommand\": \"bo\\u006Fk\"\x7d").toList

theorem command_read_as_request_escaped :
    escaped.all Body.isBlank = false ∧ (Body.command .booking escaped).toOption = some .book ∧
    ∃ v r, Json.readShape (shape .booking) escaped = .ok v ∧ ofJson? .booking v = some r ∧
      r.StandsFor .booking .book := by
  have hblank : escaped.all Body.isBlank = false := by
    decide +kernel
  have hcommand : (Body.command .booking escaped).toOption = some .book := by
    decide +kernel
  have hfields : ((Json.read escaped).toOption.bind
      (Json.fields? [Workflow.booking.field])).isSome = true := by
    decide +kernel
  have honce : ∀ members, Json.read escaped = .ok (.object members) →
      members.countP (fun m => m.1 == Workflow.booking.field) ≤ 1 := by
    intro members hread
    rw [hread] at hfields
    simpa [Except.toOption, Json.fields?] using hfields
  refine ⟨hblank, hcommand, ?_⟩
  cases h : Body.command .booking escaped with
  | error e =>
    rw [h] at hcommand
    cases hcommand
  | ok c =>
    rw [h] at hcommand
    cases hcommand
    obtain ⟨_, v, r, -, hshape, hr, hstands, -⟩ := command_read_as_request hblank honce h
    exact ⟨v, r, hshape, hr, hstands⟩

end Api.CommandRequest
end LockFleet
