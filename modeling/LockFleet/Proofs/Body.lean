import LockFleet.Body

/-!
This module contains what the body of a request says about the command that is read from it: the body
gives the word of the command, or the workflow is that of status requests, which needs no word.
-/

namespace LockFleet

theorem Workflow.workflow_and_word_of_command? {w : Workflow} {word : String} {c : Command}
    (h : w.command? word = some c) : c.workflow = w ∧ c.word = word := by
  have hmem := List.mem_of_find?_eq_some h
  have hword := List.find?_some h
  unfold commands at hmem
  rw [List.mem_filter, beq_iff_eq] at hmem
  exact ⟨hmem.2, beq_iff_eq.1 hword⟩

namespace Body

variable {w : Workflow} {field : String} {members : Members} {c : Command}

end Body
end LockFleet
