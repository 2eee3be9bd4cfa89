import LockFleet.Proofs.Concurrent.Order
import LockFleet.Proofs.Dispatch.Unnoticed

/-!
This module contains the proof that errands which failed can be left out of the order in which errands
take effect. All others are answered as before, and what is pending is alike in the end.
-/

namespace LockFleet

namespace Dispatch

variable {d d' d'' : Dispatch}

theorem Alike.trans (h : Alike d d') (h' : Alike d' d'') : Alike d d'' := by
  refine ⟨h.registry_eq.trans h'.registry_eq, ?_⟩
  intro id
  have hpending := h'.pending id
  rw [← h.registry_eq] at hpending
  exact (h.pending id).trans hpending

theorem reachable_empty : Reachable empty :=
  ⟨[], rfl⟩

theorem Reachable.step (h : Reachable d) (e : Event) : Reachable (d.step e).2 := by
  obtain ⟨events, rfl⟩ := h
  exact ⟨events ++ [e], by rw [run_append]; rfl⟩

theorem alike_step_of_error (hd : Reachable d) {e : Event} {failure : Failure}
    (h : (d.step e).1 = some (.error failure)) : Alike (d.step e).2 d := by
  cases e with
  | submit raw c verdict =>
    rw [step_submit] at h ⊢
    have hfleeting : d.IsFleeting raw c (d.submit verdict raw c).1 := by
      rw [Option.some.inj h]
      trivial
    exact alike_submit_of_isFleeting hd hfleeting
  | report e => cases h

end Dispatch

namespace Concurrent

open Dispatch (Alike Reachable)

def Moment.Failed (m : Moment) : Prop :=
  ∃ failure, m.answer = some (.error failure)

theorem run_filter_moments {d d' : Dispatch} {moments : List Moment} {keep : Moment → Bool}
    (hd : Reachable d) (halike : Alike d d')
    (hkeep : ∀ m ∈ moments, keep m = false → m.Failed)
    (h : (d.run (moments.map Moment.event)).1 = moments.map Moment.answer) :
    (d'.run ((moments.filter keep).map Moment.event)).1 = (moments.filter keep).map Moment.answer ∧
      Alike (d.run (moments.map Moment.event)).2
        (d'.run ((moments.filter keep).map Moment.event)).2 := by
  induction moments generalizing d d' with
  | nil => exact ⟨rfl, halike⟩
  | cons m moments ih =>
    rw [List.map_cons, Dispatch.run_cons, List.map_cons] at h
    obtain ⟨hanswer, hanswers⟩ := List.cons.inj h
    have hrest : ∀ m ∈ moments, keep m = false → m.Failed :=
      fun m hm => hkeep m (List.mem_cons_of_mem _ hm)
    rw [List.map_cons, Dispatch.run_cons]
    cases hm : keep m with
    | true =>
      obtain ⟨hstep, halike⟩ := halike.step m.event
      obtain ⟨hrun, hend⟩ := ih (hd.step m.event) halike hrest hanswers
      rw [List.filter_cons_of_pos hm, List.map_cons, List.map_cons, Dispatch.run_cons, ← hstep, hanswer,
        hrun]
      exact ⟨rfl, hend⟩
    | false =>
      obtain ⟨failure, hfailure⟩ := hkeep m List.mem_cons_self hm
      have hstep := Dispatch.alike_step_of_error hd (hanswer.trans hfailure)
      rw [List.filter_cons_of_neg (by simp [hm])]
      exact ih (hd.step m.event) (hstep.trans halike) hrest hanswers

def replay (moments : List Moment) : List Dispatch.Answer × Dispatch :=
  Dispatch.empty.run (moments.map Moment.event)

theorem replay_filter {moments : List Moment} {keep : Moment → Bool}
    (hkeep : ∀ m ∈ moments, keep m = false → m.Failed)
    (h : (replay moments).1 = moments.map Moment.answer) :
    (replay (moments.filter keep)).1 = (moments.filter keep).map Moment.answer ∧
      Alike (replay moments).2 (replay (moments.filter keep)).2 :=
  run_filter_moments Dispatch.reachable_empty Dispatch.alike_empty hkeep h

end Concurrent
end LockFleet
