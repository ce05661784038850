import CampaignDesk.Engine.Access
import CampaignDesk.Order.Preparation

/-!
# The service

Operations on forms and jobs. Each makes one order and passes it to the engine once; the temporary
files of a form are released however the call ends. A failure of the engine that is none of the
desk's own is passed on as an engine failure with the same message.

* `Dispatch.Call`: how an engine is called.
* `Dispatch.callEngine`: one call, with its log records.
* `Dispatch.perform`: an operation on a form.
* `Dispatch.listJobs`, `Dispatch.cancelJob`, `Dispatch.runScheduler`: operations without a form.
-/

namespace CampaignDesk.Dispatch

/-- How an engine answers an order. -/
abbrev Call := EngineRef → Order → Act Value

/-- The logger of the service. -/
def logger : String := "mailgrid_ui.service"

/-- A log record of an operation. -/
def note (level : Level) (operation : String) (message : Text) (f : Option Failure) : Act Unit :=
  Act.note ⟨level, Text.ofString logger, message, some (.ofString operation), f⟩

/-- The engine of the service: its own or else the one in use. -/
def engine : Act EngineRef := do
  match (← get).service.engine with
  | some e => return e
  | none => Engine.inUse

/-- What a failure during a call is passed on as: failures of the desk and requests to stop as they
are, anything else as a failure of the engine. -/
def passedOn (f : Failure) : Failure :=
  if f.kind.isDesk || !f.kind.isOrdinary then f
  else (Failure.new .engineError f.message).because f

/-- What is logged of a failure during a call; a request to stop is not. -/
def logFailed (operation : String) (f : Failure) : Act Unit :=
  if f.kind.isDesk then
    note .error operation (Text.ofString operation ++ (" failed" : Text)) (some f)
  else if f.kind.isOrdinary then
    note .error operation
      (Text.ofString operation ++ (" failed: " : Text) ++ f.message) (some f)
  else pure ()

/-- Calls the engine with an order on behalf of an operation. -/
def callEngine (call : Call) (operation : String) (order : Order) : Act Value := do
  note .info operation (("Starting " : Text) ++ Text.ofString operation) none
  match ← Act.attempt (do call (← engine) order) with
  | .error f =>
    logFailed operation f
    throw (passedOn f)
  | .ok returned =>
    note .info operation (Text.ofString operation ++ (" completed" : Text)) none
    return returned

/-- What an operation on a form is called in the log. -/
def operationName : Campaign → String
  | .run => "run"
  | .preview => "preview"
  | .schedule => "schedule"

/-- An operation on a form. -/
def perform (call : Call) (operation : Campaign) (form : Form) : Act Unit := do
  let tempDir := (← get).service.tempDir
  let (order, files) ←
    Preparation.prepare form (.bool (operation = .preview)) tempDir
  Act.ensure (do let _ ← callEngine call (operationName operation) order) files.release

/-- The record of a job: a dictionary as it is, anything else as the job of a dictionary. -/
def jobRecord : Value → Value
  | .dict entries => .dict entries
  | v => .dict [(.ofString "job", v)]

/-- The job records in what an engine returned: those of a sequence, else none. -/
def jobRecords : Value → List Value
  | .list items => items.map jobRecord
  | .tuple items => items.map jobRecord
  | _ => []

/-- The order to list the jobs in a database. -/
def listOrder (db : Value) : Order := (Order.plain.set .listJobs (.bool true)).set .schedulerDb db

/-- The order to cancel a job in a database. -/
def cancelOrder (job db : Value) : Order := (Order.plain.set .cancelJobId job).set .schedulerDb db

/-- The order to run the scheduler on a database. -/
def schedulerOrder (db : Value) : Order :=
  (Order.plain.set .schedulerRun (.bool true)).set .schedulerDb db

/-- The database meant by a value: a blank one means the default. -/
def database (db : Value) : Act Value := Act.settle (Defaults.ifBlank? db Defaults.schedulerDb)

/-- The records of the scheduled jobs. -/
def listJobs (call : Call) (db : Value) : Act (List Value) := do
  return jobRecords (← callEngine call "list_jobs" (listOrder (← database db)))

/-- Cancels a scheduled job, which has to be named. -/
def cancelJob (call : Call) (job db : Value) : Act Unit := do
  if ← Act.settle (Defaults.isBlank? job) then throw (.new .fieldRefused "job_id is required")
  let _ ← callEngine call "cancel_job" (cancelOrder job (← database db))

/-- Runs the scheduler until the engine returns. -/
def runScheduler (call : Call) (db : Value) : Act Unit := do
  let _ ← callEngine call "scheduler" (schedulerOrder (← database db))

end CampaignDesk.Dispatch
