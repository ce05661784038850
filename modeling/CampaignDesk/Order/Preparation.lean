import CampaignDesk.Order.Attachments
import CampaignDesk.TempFiles

/-!
# From form to order

A form becomes an order in fixed stages: the mail server configuration is checked, the attachments
are made absolute, inline content is written to temporary files, and unset fields get their
defaults. Nothing is written before the first two stages have passed, and if a later one fails
what was written is removed again.

* `Preparation.checkServerConfig`: the first stage.
* `Preparation.order?`: the order of a form, once its template and recipients have paths.
* `Preparation.prepare`: all stages; whoever asks for the order has to release the files.
-/

namespace CampaignDesk.Preparation

/-- The mail server configuration has to be named and to exist. -/
def checkServerConfig (path : Value) : Act Unit := do
  if ← Act.settle (Defaults.isBlank? path) then
    throw (.new .serverConfigMissing "SMTP config path is required")
  match path with
  | .text p =>
    if !(← get).store.exists p then
      throw (.new .serverConfigNotFound (("SMTP config not found: " : Text) ++ p))
  | _ => pure ()

/-- The attachments of a form, made absolute. -/
def attachments (v : Value) : Act (List Text) := do
  Act.settle (Attachments.normalize? (← get).cwd v)

/-- A path, or the empty text in place of something that counts as nothing. -/
def orEmpty (v : Value) : Value := if v.isTruthy then v else .text []

/-- The template of a form: inline content wins over a path. -/
def template (form : Form) : Drafting Value := do
  let html := form.get .templateHtml
  if ← Drafting.lift (Act.settle (Defaults.isBlank? html)) then return form.get .templatePath
  match html with
  | .text content => return .text (← Drafting.write content ".html" "template")
  | _ => return form.get .templatePath

/-- The recipients of a form: a path wins over inline content. -/
def recipients (form : Form) : Drafting Value := do
  let path := form.get .csvPath
  let content := form.get .csvContent
  if !(← Drafting.lift (Act.settle (Defaults.isBlank? path))) then return path
  if ← Drafting.lift (Act.settle (Defaults.isBlank? content)) then return path
  match content with
  | .text c => return .text (← Drafting.write c ".csv" "CSV")
  | _ => return path

/-- The order of a form, with the given template, recipients and attachments. -/
def order? (form : Form) (forcePreview template recipients : Value) (attachments : List Text) :
    Except Failure Order := do
  let backoff ← Defaults.ifBlank? (form.get .jobBackoff) Defaults.jobBackoff
  let db ← Defaults.ifBlank? (form.get .schedulerDb) Defaults.schedulerDb
  return ⟨fun
    | .envPath => form.get .envPath
    | .csvPath => orEmpty recipients
    | .templatePath => orEmpty template
    | .sheetUrl => form.get .sheetUrl
    | .subject => form.get .subject
    | .text => form.get .text
    | .to => form.get .to
    | .cc => form.get .cc
    | .bcc => form.get .bcc
    | .attachments => .tuple (attachments.map .text)
    | .filter => form.get .filter
    | .concurrency => Defaults.ifUnset (form.get .concurrency) Defaults.concurrency
    | .retryLimit => Defaults.ifUnset (form.get .retryLimit) Defaults.retryLimit
    | .batchSize => Defaults.ifUnset (form.get .batchSize) Defaults.batchSize
    | .previewPort => Defaults.ifUnset (form.get .previewPort) Defaults.previewPort
    | .scheduleAt => form.get .scheduleAt
    | .interval => form.get .interval
    | .cron => form.get .cron
    | .jobRetries => Defaults.ifUnset (form.get .jobRetries) Defaults.jobRetries
    | .jobBackoff => backoff
    | .schedulerDb => db
    | .dryRun => form.get .dryRun
    | .showPreview => .bool (forcePreview.isTruthy || (form.get .showPreview).isTruthy)
    | .listJobs => .bool false
    | .cancelJobId => .text []
    | .schedulerRun => .bool false⟩

/-- The stages that write, on a set of temporary files. -/
def draft (form : Form) (forcePreview : Value) (attachments : List Text) : Drafting Order := do
  let template ← template form
  let recipients ← recipients form
  Drafting.lift (Act.settle (order? form forcePreview template recipients attachments))

/-- The logger of preparations. -/
def logger : String := "mailgrid_ui.mapping"

/-- The order of a form with the temporary files that it refers to. -/
def prepare (form : Form) (forcePreview directory : Value) : Act (Order × TempFiles) := do
  checkServerConfig (form.get .envPath)
  let paths ← attachments (form.get .attachments)
  let (outcome, files) ←
    (TempFiles.none directory TempFiles.defaultStem).run (draft form forcePreview paths)
  match outcome with
  | .error f =>
    files.release
    throw f
  | .ok order =>
    Act.log .debug logger
      (("Normalized request (" : Text) ++ Text.ofNat files.paths.length ++
        (" temp artifacts)" : Text))
    return (order, files)

end CampaignDesk.Preparation
