import CampaignDesk.Failure.Basic

/-!
# Tasks

The life of one background run. It waits, then either is called off or runs, and a run ends with a
value or a failure. What has ended stays as it ended.

* `Task.State`, `Task.Status`: the states, and what is told of them.
* `Task.begin?`, `Task.finish?`, `Task.cancel`: the transitions.
* `Task.result?`, `Task.failure?`: what a task that has ended holds.
-/

namespace CampaignDesk.Task

/-- Where a task stands. A cancelled task has been noticed once its runner has seen it. -/
inductive State
  | waiting
  | running
  | cancelled (noticed : Bool)
  | finished (outcome : Except Failure Value)

/-- What is told of a task. -/
inductive Status
  | pending
  | running
  | cancelled
  | failed
  | stopped
deriving DecidableEq

/-- The word for a status. -/
def Status.name : Status → String
  | .pending => "pending"
  | .running => "running"
  | .cancelled => "cancelled"
  | .failed => "failed"
  | .stopped => "stopped"

namespace State

/-- Whether the task runs. -/
def isRunning : State → Bool
  | .running => true
  | _ => false

/-- Whether the task was called off. -/
def isCancelled : State → Bool
  | .cancelled _ => true
  | _ => false

/-- Whether the task has ended. -/
def isDone : State → Bool
  | .cancelled _ | .finished _ => true
  | _ => false

/-- What is told of the task. -/
def status : State → Status
  | .waiting => .pending
  | .running => .running
  | .cancelled _ => .cancelled
  | .finished (.ok _) => .stopped
  | .finished (.error _) => .failed

/-- What a runner does first: the new state, and whether the task is to be run. -/
def begin? : State → Except Failure (State × Bool)
  | .waiting => .ok (.running, true)
  | .cancelled false => .ok (.cancelled true, false)
  | _ => .error (.new .runtimeError "Future in unexpected state")

/-- The end of a task; it ends but once. -/
def finish? (outcome : Except Failure Value) : State → Except Failure State
  | .waiting | .running => .ok (.finished outcome)
  | _ => .error (.new .invalidStateError [])

/-- Calls a task off if it still waits: the new state, whether the task is called off, and whether
that is news. -/
def cancel : State → State × Bool × Bool
  | .waiting => (.cancelled false, true, true)
  | .cancelled noticed => (.cancelled noticed, true, false)
  | s => (s, false, false)

/-- The value of a task that has ended well. -/
def result? : State → Except Failure Value
  | .cancelled _ => .error (.new .cancelledError [])
  | .finished outcome => outcome
  | _ => .error (.new .timeoutError [])

/-- The failure of a task that has ended, or nothing if it ended well. -/
def failure? : State → Except Failure (Option Failure)
  | .cancelled _ => .error (.new .cancelledError [])
  | .finished (.ok _) => .ok none
  | .finished (.error f) => .ok (some f)
  | _ => .error (.new .timeoutError [])

end State

end CampaignDesk.Task
