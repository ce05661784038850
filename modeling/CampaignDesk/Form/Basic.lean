import CampaignDesk.Defaults
import CampaignDesk.Value.Same

/-!
# Forms

A form is what the user filled in: one value for each of its fields, of whatever type it came with.

* `Form.Field`: the fields, each with a name, the name it has in a payload, and an initial value.
* `Form.ofPayload?`: the form that a payload describes.
* `Form.toPayload`: the payload of a form.
* `Form.ofFields?`: the form with some fields given by name.
-/

namespace CampaignDesk

/-- The fields of a form. -/
inductive Form.Field
  | envPath
  | csvPath
  | csvContent
  | sheetUrl
  | templatePath
  | templateHtml
  | subject
  | text
  | to
  | cc
  | bcc
  | attachments
  | concurrency
  | retryLimit
  | batchSize
  | previewPort
  | filter
  | dryRun
  | showPreview
  | scheduleAt
  | interval
  | cron
  | jobRetries
  | jobBackoff
  | schedulerDb
deriving DecidableEq

/-- A form: a value for every field. -/
structure Form where
  get : Form.Field → Value

namespace Form

namespace Field

/-- Every field, in the order in which a form lists them. -/
def all : List Field := [
  .envPath, .csvPath, .csvContent, .sheetUrl, .templatePath, .templateHtml, .subject, .text, .to,
  .cc, .bcc, .attachments, .concurrency, .retryLimit, .batchSize, .previewPort, .filter, .dryRun,
  .showPreview, .scheduleAt, .interval, .cron, .jobRetries, .jobBackoff, .schedulerDb]

theorem mem_all (f : Field) : f ∈ all := by cases f <;> decide

/-- The name of a field. -/
def name : Field → String
  | .envPath => "env_path"
  | .csvPath => "csv_path"
  | .csvContent => "csv_content"
  | .sheetUrl => "sheet_url"
  | .templatePath => "template_path"
  | .templateHtml => "template_html"
  | .subject => "subject"
  | .text => "text"
  | .to => "to"
  | .cc => "cc"
  | .bcc => "bcc"
  | .attachments => "attachments"
  | .concurrency => "concurrency"
  | .retryLimit => "retry_limit"
  | .batchSize => "batch_size"
  | .previewPort => "preview_port"
  | .filter => "filter"
  | .dryRun => "dry_run"
  | .showPreview => "show_preview"
  | .scheduleAt => "schedule_at"
  | .interval => "interval"
  | .cron => "cron"
  | .jobRetries => "job_retries"
  | .jobBackoff => "job_backoff"
  | .schedulerDb => "scheduler_db"

/-- The key of a field in a payload. -/
def payloadKey : Field → String
  | .envPath => "envPath"
  | .csvPath => "csvPath"
  | .csvContent => "csvContent"
  | .sheetUrl => "sheetUrl"
  | .templatePath => "templatePath"
  | .templateHtml => "templateHTML"
  | .retryLimit => "retryLimit"
  | .batchSize => "batchSize"
  | .previewPort => "previewPort"
  | .dryRun => "dryRun"
  | .showPreview => "showPreview"
  | .scheduleAt => "scheduleAt"
  | .jobRetries => "jobRetries"
  | .jobBackoff => "jobBackoff"
  | .schedulerDb => "schedulerDB"
  | f => f.name

/-- The value of a field that was not given. -/
def initial : Field → Value
  | .attachments => .list []
  | .concurrency | .retryLimit | .batchSize | .previewPort | .jobRetries => .null
  | .dryRun | .showPreview => .bool false
  | _ => .text []

/-- The field with a name. -/
def ofName? (name : Text) : Option Field := all.find? fun f => Text.ofString f.name = name

end Field

/-- The form that nobody has touched. -/
def blank : Form := ⟨Field.initial⟩

/-- The form with another value in one field. -/
def set (form : Form) (field : Field) (v : Value) : Form :=
  ⟨fun f => if f = field then v else form.get f⟩

/-- Whether two forms have equal values in all fields. -/
def same (a b : Form) : Bool := Field.all.all fun f => (a.get f).same (b.get f)

/-- The value that a payload gives a field: the first one that is not null among the payload key
and the name of the field. -/
def given? (payload : Entries) (f : Field) : Option Value :=
  let present (key : String) : Option Value :=
    match Value.lookup? (Text.ofString key) payload with
    | some .null | none => none
    | some v => some v
  (present f.payloadKey).or (present f.name)

/-- The elements that a value is gone through by. -/
def elements? : Value → Except Failure (List Value)
  | .list items => .ok items
  | .tuple items => .ok items
  | .dict entries => .ok (entries.map fun e => e.1.toValue)
  | .text t => .ok (t.map fun c => .text [c])
  | v => .error (Defaults.notIterable v)

/-- The list of attachments that a value stands for: a single path is a list of one. -/
def attachmentList? : Value → Except Failure Value
  | .text t => .ok (.list [.text t])
  | v => (elements? v).map .list

/-- The form of a dictionary. -/
def ofEntries? (payload : Entries) : Except Failure Form := do
  let form : Form := ⟨fun f => (given? payload f).getD f.initial⟩
  match given? payload .attachments with
  | none => return form
  | some v => return form.set .attachments (← attachmentList? v)

/-- Every key under which a payload may give a field. -/
def keys : List Text :=
  Field.all.flatMap fun f => [Text.ofString f.payloadKey, Text.ofString f.name]

/-- What is said of a value that is asked for a key but has positions only. -/
def indexedByNumber (what : String) : Failure :=
  .typeError (Text.ofString what ++ (" indices must be integers or slices, not str" : Text))

/-- The form that a payload describes. A payload that is not a dictionary gives nothing, unless it
holds one of the keys, which then cannot be looked up, or holds nothing at all. -/
def ofPayload? : Value → Except Failure Form
  | .dict entries => ofEntries? entries
  | .list items =>
    if keys.any fun k => items.any (Value.same (.text k)) then .error (indexedByNumber "list")
    else .ok blank
  | .tuple items =>
    if keys.any fun k => items.any (Value.same (.text k)) then .error (indexedByNumber "tuple")
    else .ok blank
  | .text t =>
    if keys.any fun k => Text.includes k t then
      .error (.typeError "string indices must be integers, not 'str'")
    else .ok blank
  | v =>
    .error (.typeError
      (("argument of type '" : Text) ++ Text.ofString v.typeName ++ ("' is not iterable" : Text)))

/-- The entries of a payload for a form. -/
def toEntries (form : Form) : Entries :=
  Field.all.map fun f => (.ofString f.payloadKey, form.get f)

/-- The payload of a form. -/
def toPayload (form : Form) : Value := .dict form.toEntries

/-- The form with the given fields, the others as nobody has touched them. -/
def ofFields? (fields : Entries) : Except Failure Form :=
  fields.foldlM (fun form (k, v) =>
    match k with
    | .text name =>
      match Field.ofName? name with
      | some f => .ok (form.set f v)
      | none => .error (.unknownField "UIRequest" k)
    | k => .error (.unknownField "UIRequest" k)) blank

end Form

end CampaignDesk
