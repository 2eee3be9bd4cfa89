import LockFleet.Proofs.Dispatch.Unnoticed
import LockFleet.Proofs.Plan
import LockFleet.Proofs.Topic

/-!
This module contains the proof that the topic of a command tells its workflow and its device, and that no
command is sent on a topic that all devices listen to.
-/

namespace LockFleet

open Topic (CommandRoot)

theorem Workflow.root_injective {w w' : Workflow} (h : w.root = w'.root) : w = w' := by
  revert h
  cases w <;> cases w' <;> decide

theorem Accepted.topic_eq_iff {a a' : Accepted} :
    a.topic = a'.topic ↔ a.command.workflow = a'.command.workflow ∧ a.device = a'.device := by
  unfold topic
  rw [CommandRoot.topic_text_inj]
  constructor
  . rintro ⟨hroot, hdevice⟩
    exact ⟨Workflow.root_injective hroot, hdevice⟩
  . rintro ⟨hworkflow, hdevice⟩
    exact ⟨congrArg Workflow.root hworkflow, hdevice⟩

theorem Plan.topic_eq_iff_of_plan_eq_ok {id id' : DeviceId} {record record' : Option DeviceRecord}
    {c c' : Command} {a a' : Accepted} (h : plan id record c = .ok a)
    (h' : plan id' record' c' = .ok a') :
    a.topic = a'.topic ↔ c.workflow = c'.workflow ∧ id = id' := by
  obtain ⟨reason, rfl⟩ := exists_reason_of_plan_eq_ok h
  obtain ⟨reason', rfl⟩ := exists_reason_of_plan_eq_ok h'
  exact Accepted.topic_eq_iff

namespace Dispatch

theorem mem_handed {answer : Except Failure Accepted} {m : Message} (h : m ∈ handed answer) :
    ∃ a : Accepted, m = a.message := by
  cases answer with
  | error e => cases h
  | ok a => exact ⟨a, List.mem_singleton.1 h⟩

theorem mem_handedWith {answers : List Answer} {m : Message} (h : m ∈ handedWith answers) :
    ∃ a : Accepted, m = a.message := by
  obtain ⟨answer, _, hm⟩ := List.mem_flatMap.1 h
  cases answer with
  | none => cases hm
  | some answer => exact mem_handed hm

theorem exists_accepted_of_mem_published {events : List Event} {m : Message}
    (h : m ∈ (empty.run events).2.published) : ∃ a : Accepted, m = a.message := by
  rw [published_run] at h
  exact mem_handedWith h

def IsAddressed (topic : String) : Prop :=
  (∃! p : Workflow × DeviceId, topic = p.1.root.topic (some p.2.text)) ∧
    ∀ root : CommandRoot, topic ≠ root.base

theorem isAddressed_topic (a : Accepted) : IsAddressed a.topic := by
  refine ⟨⟨(a.command.workflow, a.device), rfl, ?_⟩, ?_⟩
  . rintro ⟨w, id⟩ h
    obtain ⟨hroot, hid⟩ := CommandRoot.topic_text_inj.1 h
    exact Prod.ext (Workflow.root_injective hroot.symm) hid.symm
  . intro root
    exact CommandRoot.topic_text_ne_base _ root a.device

theorem topics_tell_workflow_and_device :
    (∀ (root root' : CommandRoot) (device device' : Option DeviceId),
      root.topic (device.map DeviceId.text) = root'.topic (device'.map DeviceId.text) →
        root = root' ∧ device = device') ∧
    (∀ (id id' : DeviceId) (record record' : Option DeviceRecord) (c c' : Command)
      (a a' : Accepted), Plan.plan id record c = .ok a → Plan.plan id' record' c' = .ok a' →
        (a.topic = a'.topic ↔ c.workflow = c'.workflow ∧ id = id') ∧ IsAddressed a.topic) ∧
    ∀ (events : List Event) (m : Message), m ∈ (empty.run events).2.published →
      IsAddressed m.topic := by
  refine ⟨?_, ?_, ?_⟩
  . intro root root' device device'
    exact CommandRoot.topic_map_text_inj.1
  . intro id id' record record' c c' a a' h h'
    exact ⟨Plan.topic_eq_iff_of_plan_eq_ok h h', isAddressed_topic a⟩
  . intro events m hm
    obtain ⟨a, rfl⟩ := exists_accepted_of_mem_published hm
    exact isAddressed_topic a

def twoSpellings : List Event :=
  [.submit "a-a" .requestStatus (.ok ()), .submit "AA" .setBooked (.ok ())]

theorem topics_tell_workflow_and_device_twoSpellings :
    (CommandRoot.plain.topic ((DeviceId.ofText? "a-a").map DeviceId.text)
        = CommandRoot.plain.topic ((DeviceId.ofText? "AA").map DeviceId.text) ∧
      DeviceId.ofText? "a-a" = DeviceId.ofText? "AA") ∧
    (∃ aa request book,
      Plan.plan aa none .requestStatus = .ok request ∧ Plan.plan aa none .setBooked = .ok book ∧
        request.topic ≠ book.topic ∧ IsAddressed request.topic) ∧
    (⟨"esp/commands/state/AA", "booked"⟩ : Message) ∈ (empty.run twoSpellings).2.published ∧
      IsAddressed "esp/commands/state/AA" := by
  obtain ⟨htopics, hplans, hrun⟩ := topics_tell_workflow_and_device
  have hsame : CommandRoot.plain.topic ((DeviceId.ofText? "a-a").map DeviceId.text)
      = CommandRoot.plain.topic ((DeviceId.ofText? "AA").map DeviceId.text) := by decide +kernel
  have hsent : (⟨"esp/commands/state/AA", "booked"⟩ : Message)
      ∈ (empty.run twoSpellings).2.published := by decide +kernel
  refine ⟨⟨hsame, (htopics _ _ _ _ hsame).2⟩, ?_, hsent, hrun _ _ hsent⟩
  let aa : DeviceId := (DeviceId.ofText? "AA").get rfl
  have hrequest : Plan.plan aa none .requestStatus = .ok ⟨aa, .requestStatus, none⟩ := rfl
  have hbook : Plan.plan aa none .setBooked = .ok ⟨aa, .setBooked, none⟩ := rfl
  obtain ⟨hiff, haddressed⟩ := hplans _ _ _ _ _ _ _ _ hrequest hbook
  refine ⟨aa, _, _, hrequest, hbook, ?_, haddressed⟩
  intro htopic
  exact absurd (hiff.1 htopic).1 (by decide)

end Dispatch
end LockFleet
