import CampaignDesk.Form.Basic

/-!
# Orders

An order is what an engine is asked to do: a value for every field, all resolved. A flag among the
fields says which of the engine's jobs is meant.

* `Order.Field`: the fields.
* `Order.plain`: the order with every field at its default.
* `Order.isScheduled`: whether the work is for later.
* `Order.toValue?`: the order as a dictionary.
-/

namespace CampaignDesk

/-- The fields of an order. -/
inductive Order.Field
  | envPath
  | csvPath
  | templatePath
  | sheetUrl
  | subject
  | text
  | to
  | cc
  | bcc
  | attachments
  | filter
  | concurrency
  | retryLimit
  | batchSize
  | previewPort
  | scheduleAt
  | interval
  | cron
  | jobRetries
  | jobBackoff
  | schedulerDb
  | dryRun
  | showPreview
  | listJobs
  | cancelJobId
  | schedulerRun
deriving DecidableEq

/-- An order: a value for every field. -/
structure Order where
  get : Order.Field → Value

namespace Order

namespace Field

/-- Every field, in the order in which an order lists them. -/
def all : List Field := [
  .envPath, .csvPath, .templatePath, .sheetUrl, .subject, .text, .to, .cc, .bcc, .attachments,
  .filter, .concurrency, .retryLimit, .batchSize, .previewPort, .scheduleAt, .interval, .cron,
  .jobRetries, .jobBackoff, .schedulerDb, .dryRun, .showPreview, .listJobs, .cancelJobId,
  .schedulerRun]

theorem mem_all (f : Field) : f ∈ all := by cases f <;> decide

/-- The name of a field. -/
def name : Field → String
  | .envPath => "env_path"
  | .csvPath => "csv_path"
  | .templatePath => "template_path"
  | .sheetUrl => "sheet_url"
  | .subject => "subject"
  | .text => "text"
  | .to => "to"
  | .cc => "cc"
  | .bcc => "bcc"
  | .attachments => "attachments"
  | .filter => "filter"
  | .concurrency => "concurrency"
  | .retryLimit => "retry_limit"
  | .batchSize => "batch_size"
  | .previewPort => "preview_port"
  | .scheduleAt => "schedule_at"
  | .interval => "interval"
  | .cron => "cron"
  | .jobRetries => "job_retries"
  | .jobBackoff => "job_backoff"
  | .schedulerDb => "scheduler_db"
  | .dryRun => "dry_run"
  | .showPreview => "show_preview"
  | .listJobs => "list_jobs"
  | .cancelJobId => "cancel_job_id"
  | .schedulerRun => "scheduler_run"

/-- The value of a field that was not given. -/
def initial : Field → Value
  | .attachments => .tuple []
  | .concurrency => Defaults.concurrency
  | .retryLimit => Defaults.retryLimit
  | .batchSize => Defaults.batchSize
  | .previewPort => Defaults.previewPort
  | .jobRetries => Defaults.jobRetries
  | .jobBackoff => Defaults.jobBackoff
  | .schedulerDb => Defaults.schedulerDb
  | .dryRun | .showPreview | .listJobs | .schedulerRun => .bool false
  | _ => .text []

/-- The field with a name. -/
def ofName? (name : Text) : Option Field := all.find? fun f => Text.ofString f.name = name

end Field

/-- The order with every field at its default. -/
def plain : Order := ⟨Field.initial⟩

/-- The order with another value in one field. -/
def set (order : Order) (field : Field) (v : Value) : Order :=
  ⟨fun f => if f = field then v else order.get f⟩

/-- Whether two orders have equal values in all fields. -/
def same (a b : Order) : Bool := Field.all.all fun f => (a.get f).same (b.get f)

/-- Whether the work is for a later time or for repeated times. -/
def isScheduled (order : Order) : Bool :=
  (order.get .scheduleAt).isTruthy || (order.get .interval).isTruthy || (order.get .cron).isTruthy

/-- The order with the given fields, the others at their defaults. -/
def ofFields? (fields : Entries) : Except Failure Order :=
  fields.foldlM (fun order (k, v) =>
    match k with
    | .text name =>
      match Field.ofName? name with
      | some f => .ok (order.set f v)
      | none => .error (.unknownField "ExecutionRequest" k)
    | k => .error (.unknownField "ExecutionRequest" k)) plain

/-- The order as a dictionary, with the attachments as a list. -/
def toValue? (order : Order) : Except Failure Value := do
  let attachments ← Form.elements? (order.get .attachments)
  return .dict (Field.all.map fun f =>
    (.ofString f.name, if f = .attachments then .list attachments else order.get f))

/-- An order stays as it was made: giving a field another value is refused. -/
def assign (_ : Order) (field : Text) : Failure :=
  .new .frozenInstanceError (("cannot assign to field " : Text) ++ field.quoted)

end Order

end CampaignDesk
