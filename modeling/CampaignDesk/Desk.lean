import CampaignDesk.Outcome
import CampaignDesk.Scheduler.Handle
import CampaignDesk.Store.Document

/-!
# The desk

What the user's window is bound to. Every operation answers with a dictionary: failures of any
ordinary kind become outcomes here and nowhere else.

* `Desk.ask`, `Desk.askJobs`, `Desk.askCancel`: campaigns and jobs.
* `Desk.askStart`, `Desk.askStatus`: the background scheduler.
* `Desk.saveServerConfig`, `Desk.loadServerConfig`, `Desk.saveText`: files.
-/

namespace CampaignDesk

/-- The form of a source. -/
def Source.form? : Source → Except Failure Form
  | .payload v => Form.ofPayload? v
  | .fields entries => Form.ofFields? entries

namespace Desk

/-- The logger of the desk. -/
def logger : String := "mailgrid_ui.app"

/-- The outcome of a failure; one that the desk does not know is logged, and a request to stop is
passed on. -/
def outcomeOf (f : Failure) (unexpected : Text) (jobs : Value) : Act Outcome :=
  if f.kind.isDesk then return .failed f jobs
  else if f.kind.isOrdinary then do
    Act.logFailure .error logger unexpected f
    return .failed f jobs
  else throw f

/-- The outcome of an operation, with a message if it succeeds. -/
def invoke (operation : Act Unit) (message : String) : Act Outcome := do
  match ← Act.attempt operation with
  | .ok () => return .ok (.ofString message) .null
  | .error f => outcomeOf f (("Unexpected error: " : Text) ++ f.message) .null

/-- What is said of a campaign that went well. -/
def successMessage : Campaign → String
  | .run => "Campaign executed successfully"
  | .preview => "Preview server started"
  | .schedule => "Campaign scheduled successfully"

/-- An operation on a form, given as a payload or filled in already. -/
def ask (call : Dispatch.Call) (operation : Campaign) (form : Except Failure Form) : Act Outcome :=
  invoke (do Dispatch.perform call operation (← Act.settle form)) (successMessage operation)

/-- The scheduled jobs. -/
def askJobs (call : Dispatch.Call) (db : Value) : Act Outcome := do
  match ← Act.attempt (Dispatch.listJobs call db) with
  | .ok jobs => return .ok .null (.list jobs)
  | .error f => outcomeOf f "Unexpected error listing jobs" (.list [])

/-- Cancels a scheduled job. -/
def askCancel (call : Dispatch.Call) (job db : Value) : Act Outcome :=
  invoke (Dispatch.cancelJob call job db) "Job cancelled successfully"

/-- What is said when the scheduler is to be started while it has not ended. -/
def alreadyRunning : Outcome :=
  ⟨.bool false, .null, .ofString "Scheduler already running", .null, by decide⟩

/-- Starts the scheduler in the background, unless a run has not ended. The start is one step: the desk has the
handle before the target of the run is called. -/
def askStart (db : Value) : Act Outcome := do
  let busy ← match (← get).scheduler with
    | none => pure false
    | some n => do pure !(← Scheduler.handle n).state.isDone
  if busy then return alreadyRunning
  let n ← Scheduler.start db
  modify fun w => { w with scheduler := some n }
  return .ok (.ofString "Scheduler started") .null

/-- Entries that report a status, with the text of a failure if there is one. -/
def statusEntries (success : Bool) (status : String) (error : Option Text) : Entries :=
  [(.ofString "success", .bool success), (.ofString "status", .ofString status)] ++
    (match error with
      | none => []
      | some t => [(.ofString "error", .text t)])

/-- How the background scheduler stands. -/
def askStatus : Act Value := do
  match (← get).scheduler with
  | none => return .dict (statusEntries true "idle" none)
  | some n =>
    let h ← Scheduler.handle n
    match h.state with
    | .finished (.error f) => return .dict (statusEntries false h.status.name (some f.message))
    | _ => return .dict (statusEntries true h.status.name none)

/-- Writes a text into a file. -/
def writeText (path text : Text) : Act Unit := do
  let w ← get
  let (outcome, store) := w.store.writeText (.ofText path) text
  set { w with store := store }
  Act.settle outcome

/-- Writes a mail server configuration into a file, which is left alone if the configuration has no text. -/
def saveServerConfig (config : Value) (path : Text) : Act Unit := do
  writeText path (← Act.settle (Json.compose? (← get).host.writing ⟨some 2⟩ config))

/-- The mail server configuration in a file, which has to be a dictionary. -/
def loadServerConfig (path : Text) : Act Value := do
  let w ← get
  match ← Act.settle (w.store.readJson? w.host.reading (.ofText path)) with
  | .dict entries => return .dict entries
  | _ => throw (.valueError (("SMTP config must be a JSON object: " : Text) ++ path))

/-- Writes what has to be a text into a file. -/
def saveText (path : Text) (content : Value) : Act Unit :=
  match content with
  | .text t => writeText path t
  | v => throw (.typeError (("data must be str, not " : Text) ++ Text.ofString v.typeName))

end Desk

end CampaignDesk
