import LockFleet.Proofs.Dispatch.Submit
import LockFleet.Proofs.Plan
import LockFleet.Proofs.Topic

/-!
This module contains the messages of a single device among all that are handed to the broker.
-/

namespace LockFleet

def Message.isFor (id : DeviceId) (m : Message) : Bool :=
  Workflow.all.any fun w => m.topic == w.root.topic (some id.text)

theorem Message.isFor_message (id : DeviceId) (a : Accepted) :
    a.message.isFor id = decide (a.device = id) := by
  rw [Bool.eq_iff_iff, decide_eq_true_iff]
  unfold isFor
  simp only [List.any_eq_true, beq_iff_eq]
  constructor
  . rintro ⟨w, _, hw⟩
    exact (Topic.CommandRoot.topic_text_inj.1 hw).2
  . rintro rfl
    have hall : a.command.workflow ∈ Workflow.all := by
      cases a.command.workflow <;> decide
    exact ⟨a.command.workflow, hall, rfl⟩

def Message.sentTo (id : DeviceId) (messages : List Message) : List Message :=
  messages.filter (isFor id)

namespace Message

variable {id : DeviceId} {a : Accepted}

theorem sentTo_append (id : DeviceId) (before after : List Message) :
    sentTo id (before ++ after) = sentTo id before ++ sentTo id after :=
  List.filter_append ..

theorem sentTo_message_of_eq (h : a.device = id) : sentTo id [a.message] = [a.message] := by
  simp [sentTo, isFor_message, h]

theorem sentTo_message_of_ne (h : a.device ≠ id) : sentTo id [a.message] = [] := by
  simp [sentTo, isFor_message, h]

end Message

theorem Dispatch.sentTo_handed_send (d : Dispatch) (verdict : Verdict) (id i : DeviceId)
    (c : Command) :
    Message.sentTo i (handed (d.send verdict id c).1)
      = if id = i then handed (d.send verdict id c).1 else [] := by
  rw [send_fst]
  cases hanswer : Plan.answer verdict (Plan.plan id (d.assumedRecord? id) c) with
  | error e => split <;> rfl
  | ok a =>
    have hdevice := Plan.device_of_plan_eq_ok (Plan.eq_ok_of_answer_eq_ok hanswer)
    rw [← hdevice]
    split
    . next hid => exact Message.sentTo_message_of_eq hid
    . next hid => exact Message.sentTo_message_of_ne hid

end LockFleet
