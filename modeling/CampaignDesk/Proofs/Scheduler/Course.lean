import CampaignDesk.Session.Run
import Mathlib.Logic.Relation

/-!
# The course of a task

* `Task.State.Moves`, `Task.State.Leads`: one move of a task, and any number of them.
* `Task.Status.mayBecome`: the same for what is told of a task. It can be computed, and is the closure
  of the arrows (`mayBecome_iff`).
* `Task.State.Leads.status`, `Leads.of_done`: **a status goes one way, and what has ended stays as it
  ended.**
* `Handle.viewsAgree`: all that a handle answers tells of the same status.
-/

namespace CampaignDesk

open Relation

namespace Task

/-! ## Statuses -/

namespace Status

/-- The statuses that may come next. -/
def next : Status → List Status
  | .pending => [.running, .cancelled]
  | .running => [.failed, .stopped]
  | .cancelled | .failed | .stopped => []

/-- Whether the task has ended. -/
def isTerminal (s : Status) : Bool := s.next.isEmpty

/-- Whether one status may become another in any number of moves, of which two are enough. -/
def mayBecome (s t : Status) : Bool := s = t || s.next.any fun u => u = t || u.next.contains t

@[simp] theorem mayBecome_refl (s : Status) : s.mayBecome s = true := by
  simp [mayBecome]

theorem mayBecome_next {s t : Status} (h : t ∈ s.next) : s.mayBecome t = true := by
  have hany : (s.next.any fun u => u = t || u.next.contains t) = true :=
    List.any_eq_true.2 ⟨t, h, by simp⟩
  rw [mayBecome, hany, Bool.or_true]

theorem mayBecome_trans {s t u : Status} (h : s.mayBecome t = true) (h' : t.mayBecome u = true) :
    s.mayBecome u = true := by
  revert h h'
  cases s <;> cases t <;> cases u <;> decide

/-- **The computed relation is the closure of the arrows.** -/
theorem mayBecome_iff (s t : Status) :
    s.mayBecome t = true ↔ ReflTransGen (fun s t => t ∈ s.next) s t := by
  constructor
  · intro h
    unfold mayBecome at h
    rw [Bool.or_eq_true, decide_eq_true_eq, List.any_eq_true] at h
    rcases h with rfl | ⟨u, hu, h⟩
    · exact .refl
    rw [Bool.or_eq_true, decide_eq_true_eq, List.contains_iff_mem] at h
    rcases h with rfl | h
    · exact .single hu
    · exact .head hu (.single h)
  · intro h
    induction h with
    | refl => exact mayBecome_refl s
    | tail _ hstep ih => exact mayBecome_trans ih (mayBecome_next hstep)

/-- What has ended stays as it ended. -/
theorem eq_of_isTerminal {s t : Status} (hs : s.isTerminal = true) (h : s.mayBecome t = true) :
    t = s := by
  unfold isTerminal at hs
  rw [List.isEmpty_iff] at hs
  unfold mayBecome at h
  rw [hs, List.any_nil, Bool.or_false, decide_eq_true_eq] at h
  exact h.symm

end Status

/-! ## States -/

namespace State

/-- One move of a task. -/
inductive Moves : State → State → Prop
  | begins : Moves .waiting .running
  | ends (outcome : Except Failure Value) : Moves .running (.finished outcome)
  | calledOff : Moves .waiting (.cancelled false)
  | noticed : Moves (.cancelled false) (.cancelled true)

/-- Any number of moves. -/
def Leads : State → State → Prop := ReflTransGen Moves

variable {s t u : State}

theorem Moves.leads (h : Moves s t) : Leads s t := ReflTransGen.single h

@[refl] theorem Leads.refl (s : State) : Leads s s := ReflTransGen.refl

theorem Leads.trans (h : Leads s t) (h' : Leads t u) : Leads s u := ReflTransGen.trans h h'

theorem Moves.status (h : Moves s t) : s.status.mayBecome t.status = true := by
  cases h with
  | begins | calledOff | noticed => rfl
  | ends outcome => cases outcome <;> rfl

/-- The status of a task follows the arrows. -/
theorem Leads.status (h : Leads s t) : s.status.mayBecome t.status = true := by
  induction h with
  | refl => exact Status.mayBecome_refl _
  | tail _ hmove ih => exact Status.mayBecome_trans ih hmove.status

theorem begin?_leads {go : Bool} (h : s.begin? = .ok (t, go)) : Leads s t := by
  rcases s with _ | _ | (_ | _) | _ <;> cases h
  · exact Moves.begins.leads
  · exact Moves.noticed.leads

/-- A task that is ended goes on, though it may not have begun. -/
theorem finish?_leads {outcome : Except Failure Value} (h : s.finish? outcome = .ok t) : Leads s t := by
  rcases s with _ | _ | _ | _ <;> cases h
  · exact Moves.begins.leads.trans (Moves.ends outcome).leads
  · exact (Moves.ends outcome).leads

/-- A task that has an outcome keeps it. -/
theorem Leads.of_finished {outcome : Except Failure Value} (h : Leads (.finished outcome) t) :
    t = .finished outcome := by
  induction h with
  | refl => rfl
  | tail _ hmove ih => rw [ih] at hmove; cases hmove

/-- A task that was called off is at most noticed afterwards. -/
theorem Leads.of_cancelled {noticed : Bool} (h : Leads (.cancelled noticed) t) :
    ∃ noticed', t = .cancelled noticed' := by
  induction h with
  | refl => exact ⟨noticed, rfl⟩
  | tail _ hmove ih =>
    obtain ⟨noticed', rfl⟩ := ih
    cases hmove
    exact ⟨true, rfl⟩

/-- **What has ended stays as it ended**, and so do its value and its failure. -/
theorem Leads.of_done (h : Leads s t) (hdone : s.isDone = true) :
    t.isDone = true ∧ t.status = s.status ∧ t.result? = s.result? ∧ t.failure? = s.failure? := by
  cases s with
  | waiting | running => cases hdone
  | cancelled noticed =>
    obtain ⟨noticed', rfl⟩ := h.of_cancelled
    exact ⟨rfl, rfl, rfl, rfl⟩
  | finished outcome =>
    rw [h.of_finished]
    exact ⟨rfl, rfl, rfl, rfl⟩

/-- Only a task that waits leads to one that waits. -/
theorem Leads.waiting (h : Leads s t) (ht : t = .waiting) : s = .waiting := by
  induction h with
  | refl => exact ht
  | tail _ hmove => rw [ht] at hmove; cases hmove

theorem status_pending : s.status = .pending ↔ s = .waiting := by
  rcases s with _ | _ | _ | (_ | _) <;> simp [status]

/-- Whether a task is called off is for its status to say. -/
theorem cancel_called (s : State) :
    s.cancel.2.1 = decide (s.status = .pending ∨ s.status = .cancelled) := by
  rcases s with _ | _ | _ | (_ | _) <;> rfl

end State

end Task

/-! ## What a handle answers -/

open Session in
/-- Every answer of a handle tells of its status. Its value and its failure are those of the outcome
with which the task has ended. -/
structure Handle.ViewsAgree (h : Handle) : Prop where
  done : answerQuery h .done =
    .ok (.value (.bool (decide (h.status ∈ [Task.Status.cancelled, .failed, .stopped]))))
  running : answerQuery h .running = .ok (.value (.bool (decide (h.status = .running))))
  cancelled : answerQuery h .cancelled = .ok (.value (.bool (decide (h.status = .cancelled))))
  stopped : ∀ v, h.state = .finished (.ok v) ↔ answerQuery h .result = .ok (.value v)
  stopped_iff : h.status = .stopped ↔ ∃ v, answerQuery h .result = .ok (.value v)
  failed : ∀ f, h.state = .finished (.error f) ↔ answerQuery h .failure = .ok (.failure (some f))
  failed_iff : h.status = .failed ↔ ∃ f, answerQuery h .failure = .ok (.failure (some f)) ∧
    answerQuery h .result = .error f
  faultless : h.status = .stopped ↔ answerQuery h .failure = .ok (.failure none)
  calledOff : h.status = .cancelled ↔
    answerQuery h .result = .error (.new .cancelledError []) ∧
      answerQuery h .failure = .error (.new .cancelledError [])
  open_iff : (h.status = .pending ∨ h.status = .running) ↔
    answerQuery h .result = .error (.new .timeoutError []) ∧
      answerQuery h .failure = .error (.new .timeoutError [])

/-- **The views of a handle agree**, whatever state its task is in. -/
theorem Handle.viewsAgree (h : Handle) : h.ViewsAgree := by
  obtain ⟨db, state, target, listeners, notified⟩ := h
  rcases state with _ | _ | noticed | (f | v) <;> constructor <;>
    simp [Session.answerQuery, Handle.status, Task.State.status, Task.State.isDone,
      Task.State.isRunning, Task.State.isCancelled, Task.State.result?, Task.State.failure?,
      Except.map, Failure.new]

end CampaignDesk
