import CampaignDesk.Dispatch

/-!
# Scheduler handles

A handle watches one background run. Whoever listens is told once, when the run has ended or, if
it has ended already, right away; what a listener does wrong is logged and does not concern the
others. Nothing runs before it is pumped.

* `Handle.status`, `Handle.display`: what a handle shows.
* `Scheduler.Nested`: how steps inside a call are taken.
* `Scheduler.listen`, `Scheduler.inform`: telling listeners.
* `Scheduler.finish`, `Scheduler.cancel`: ending a task.
* `Scheduler.pump`: runs the target of a handle.
* `Scheduler.start`: a background run of the scheduler.
-/

namespace CampaignDesk

namespace Handle

/-- A handle on a task that waits. -/
def fresh (db : Value) (target : Option Target) : Handle := ⟨db, .waiting, target, [], false⟩

/-- What is told of the task. -/
def status (h : Handle) : Task.Status := h.state.status

/-- The handle as it shows itself. -/
def display (h : Handle) : Text :=
  ("SchedulerHandle(db_path=" : Text) ++ h.db.display ++ (", status=" : Text) ++
    Text.ofString h.status.name ++ (")" : Text)

end Handle

namespace Scheduler

/-- How the steps that a listener, a target or an engine takes are taken. -/
abbrev Nested := List Step → Act (List Answer)

/-- The logger of the scheduler. -/
def logger : String := "mailgrid_ui.scheduler"

/-- The handle with a number. -/
def handle (n : Nat) : Act Handle := do
  match (← get).handles[n]? with
  | some h => return h
  | none => throw (.new .indexError "list index out of range")

/-- Changes the handle with a number. -/
def update (n : Nat) (f : Handle → Handle) : Act Unit :=
  modify fun w => { w with handles := w.handles.modify n f }

/-- Steps taken under a name, if there are any to take. -/
def take (nested : Nested) (who : Text) : Option (List Step) → Act Unit
  | none => pure ()
  | some steps => do Act.record (.took who (← nested steps))

/-- What a listener does once it has been told. -/
def respond (nested : Nested) (l : Listener) : Act Unit := do
  take nested l.name l.during
  match l.failure with
  | some f => throw f
  | none => pure ()

/-- A listener is told of the handle and responds. -/
def react (nested : Nested) (n : Nat) (l : Listener) : Act Unit := do
  Act.record (.told l.name (← handle n).status)
  respond nested l

/-- The failure of a listener is logged, unless it is a request to stop. -/
def excuse : Except Failure Unit → Act Unit
  | .ok () => pure ()
  | .error f =>
    if f.kind.isOrdinary then Act.logFailure .error logger "Scheduler listener raised" f
    else throw f

/-- Tells one listener, and is done with it. -/
def tell (nested : Nested) (n : Nat) (l : Listener) : Act Unit := do
  excuse (← Act.attempt (react nested n l))

/-- Adds a listener, or tells it right away if the others have been told. -/
def listen (nested : Nested) (n : Nat) (l : Listener) : Act Unit := do
  let h ← handle n
  Act.record (.added l.name)
  if h.notified then tell nested n l
  else update n fun h => { h with listeners := h.listeners ++ [l] }

/-- Logs how the task has ended. -/
def logEnd (h : Handle) : Act Unit :=
  match h.state with
  | .finished (.error f) =>
    Act.logFailure .error logger
      (("Scheduler failed (db=" : Text) ++ h.db.display ++ ("): " : Text) ++ f.message) f
  | _ =>
    Act.log .info logger (("Scheduler finished (db=" : Text) ++ h.db.display ++ (")" : Text))

/-- Logs how the task has ended and tells the listeners in order. From then on listeners are told as
soon as they are added. -/
def inform (nested : Nested) (n : Nat) : Act Unit := do
  let h ← handle n
  logEnd h
  update n fun h => { h with notified := true, listeners := [] }
  h.listeners.forM (tell nested n)

/-- Puts a task into a state in which it has ended, and has the listeners told. -/
def complete (nested : Nested) (n : Nat) (state : Task.State) : Act Unit := do
  update n fun h => { h with state := state }
  inform nested n

/-- Ends a task. -/
def finish (nested : Nested) (n : Nat) (outcome : Except Failure Value) : Act Unit := do
  let state ← Act.settle ((← handle n).state.finish? outcome)
  complete nested n state

/-- Calls a task off if it still waits, and tells whether it is called off. -/
def cancel (nested : Nested) (n : Nat) : Act Bool := do
  let (state, cancelled, news) := (← handle n).state.cancel
  if news then complete nested n state
  return cancelled

/-- What a runner does first, and whether the task is to be run. -/
def begin (n : Nat) : Act Bool := do
  let (state, go) ← Act.settle (← handle n).state.begin?
  update n fun h => { h with state := state }
  return go

/-- The work of a target. -/
def work (nested : Nested) (call : Dispatch.Call) : Target → Act Value
  | .scheduler db => do
    Dispatch.runScheduler call db
    return .null
  | .steps during outcome => do
    take nested "target" during
    Act.settle outcome

/-- Runs the target of a handle, unless the task was called off, and ends the task as the target
ends. -/
def pump (nested : Nested) (call : Dispatch.Call) (n : Nat) : Act Unit := do
  match (← handle n).target with
  | none => throw (.noAttribute .null "run")
  | some target =>
    if ← begin n then
      let outcome ← Act.attempt (work nested call target)
      finish nested n outcome

/-- A new handle; answers its number. -/
def add (h : Handle) : Act Nat := do
  let n := (← get).handles.length
  modify fun w => { w with handles := w.handles ++ [h] }
  return n

/-- A background run of the scheduler, which waits to be pumped. Its target never runs before this has ended: a
thread that is started and overtakes whoever started it is left out. -/
def start (db : Value) : Act Nat := do
  let db ← Dispatch.database db
  Act.log .info Dispatch.logger
    (("Starting scheduler in background (db=" : Text) ++ db.display ++ (")" : Text))
  add (Handle.fresh db (some (.scheduler db)))

end Scheduler

end CampaignDesk
