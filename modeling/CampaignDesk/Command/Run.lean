import CampaignDesk.Command.Basic
import CampaignDesk.Console.Output
import CampaignDesk.Session.Run
import CampaignDesk.Settings.Document

/-!
# Running commands

A call reads the settings, sets up the log and carries out its command. Settings that cannot be used
stop every command but `init`, which writes fresh ones. A command ends with a status: zero if it did
what it was asked, one if it failed, and two if it was not asked properly.

* `Command.perform`: what each command does.
* `Program.call`: a whole call, with its status and the failure that got past the command, if one
  did.
-/

namespace CampaignDesk

/-- How a call ends. -/
structure Ending where
  status : Int
  failure : Option Failure

namespace Command

/-- A call that was not asked properly. The lines in front of the complaint that tell how the program is used
are left out. -/
def misuse (u : Usage) : Act Int := do
  match u with
  | .refused f => throw f
  | u =>
    match u.message with
    | some m => Console.complain (("Error: " : Text) ++ m)
    | none => pure ()
    return 2

/-- Reads the settings and sets up the log; settings that cannot be used are passed on. -/
def begin (verbose : Bool) : Act (Except Failure Settings) := do
  let w ← get
  match Settings.loadBy? w.host.yaml w.environment w.store with
  | .error f => if f.kind.isDesk then return .error f else throw f
  | .ok settings =>
    let level := if verbose then Level.debug else settings.logLevel
    let home ← Act.settle w.environment.home?
    let path ← Act.settle (settings.logPath? w.environment w.now (some home))
    Act.setUpLogging ⟨path, .text level.name, settings.logFormat, verbose⟩
    return .ok settings

/-- A command that needs settings: they become those of the service. -/
def withSettings (settings : Except Failure Settings) (command : Act Int) : Act Int := do
  match settings with
  | .ok s =>
    modify fun w => { w with service := ⟨none, s.tempDir⟩ }
    command
  | .error f =>
    Console.say .failure (("Config not loaded: " : Text) ++ f.message)
    Console.say .info "Run 'mailgrid-ui init --force' to write a fresh configuration file."
    return 1

/-- Whether a failure is told to the user, rather than passed on. -/
def isTold (f : Failure) : Bool := f.kind.isDesk || f.kind.isA .valueError

/-- Carries out an operation and says how it went. -/
def conclude (operation : Act Unit) (success : Text) : Act Int := do
  match ← Act.attempt operation with
  | .ok () =>
    Console.say .success success
    return 0
  | .error f =>
    if isTold f then
      Console.say .failure f.message
      return 1
    else throw f

/-- The entries of a request file, which has to hold a JSON object. -/
def request (file : Text) : Act (Except Usage Entries) := do
  let path := PathForm.ofText file
  let w ← get
  let text ← Act.settle (w.store.readText? path)
  match Json.parseWithin? w.host.reading text with
  | .ok (.dict entries) => return .ok entries
  | .ok _ =>
    return .error (.invalidValue none (path.toText ++ (" must contain a JSON object" : Text)))
  | .error f =>
    if f.kind = .jsonDecodeError then
      return .error (.invalidValue none
        (path.toText ++ (" is not valid JSON: " : Text) ++ f.message))
    else throw f

/-- A form with the text of an option in one field, unless it was not given or is empty. -/
def withText (field : Form.Field) (given : Option Text) (form : Form) : Form :=
  match given with
  | some (c :: rest) => form.set field (.text (c :: rest))
  | _ => form

/-- A form with the number of an option in one field, unless it was not given or is zero. -/
def withNumber (field : Form.Field) (given : Option Int) (form : Form) : Form :=
  match given with
  | some n => if n = 0 then form else form.set field (.int n)
  | none => form

/-- A campaign: the form of a request file, changed as the options say, is passed to the service. -/
def campaign (call : Dispatch.Call) (operation : Campaign) (file : Text) (change : Form → Form) :
    Act Int := do
  match ← request file with
  | .error u => misuse u
  | .ok entries =>
    let form ← Act.settle (Form.ofPayload? (.dict entries))
    conclude (Dispatch.perform call operation (change form))
      (Text.ofString (Desk.successMessage operation))

/-- The line that shows a job. -/
def jobLine (job : Value) : Text :=
  match job with
  | .dict entries =>
    ("  " : Text) ++ Text.join "  "
      (entries.map fun (k, v) => k.display ++ ("=" : Text) ++ v.display)
  | v => v.display

/-- Shows the jobs in a database, one on a line or all as JSON. -/
def showJobs (call : Dispatch.Call) (db : Text) (asJson : Bool) : Act Int := do
  match ← Act.attempt (Dispatch.listJobs call (.text db)) with
  | .error f =>
    if f.kind.isDesk then
      Console.say .failure f.message
      return 1
    else throw f
  | .ok jobs =>
    if asJson then
      Console.echo (← Act.settle (Json.compose? (← get).host.writing ⟨some 2⟩ (.list jobs)))
    else jobs.forM fun job => Console.echo (jobLine job)
    return 0

/-- Writes fresh settings; those that are there are kept unless that is forced. -/
def writeSettings (force : Bool) : Act Int := do
  let w ← get
  let home ← Act.settle w.environment.home?
  let store ← Act.settle (w.store.makeDirectories? home)
  set { w with store := store }
  let path := home.below (.ofText "config.yaml")
  if (← Act.settle (store.probe? path.toText)) && !force then
    Console.complain (("Config already exists at " : Text) ++ path.toText ++
      (". Use --force to overwrite." : Text))
    return 1
  Desk.writeText path.toText Settings.initialDocument
  Console.echo (("Initialized mailgrid-ui config at " : Text) ++ path.toText)
  return 0

/-- What each command does. -/
def perform (call : Dispatch.Call) (settings : Except Failure Settings) : Command → Act Int
  | .run file dryRun =>
    withSettings settings
      (campaign call .run file fun form =>
        if dryRun then form.set .dryRun (.bool true) else form)
  | .preview file port =>
    withSettings settings (campaign call .preview file (withNumber .previewPort port))
  | .schedule file at? interval cron db =>
    withSettings settings
      (campaign call .schedule file fun form =>
        withText .schedulerDb db (withText .cron cron
          (withText .interval interval (withText .scheduleAt at? form))))
  | .listJobs db asJson => withSettings settings (showJobs call db asJson)
  | .cancelJob job db =>
    withSettings settings
      (conclude (Dispatch.cancelJob call (.text job) (.text db))
        (("Job " : Text) ++ job ++ (" cancelled" : Text)))
  | .scheduler db =>
    withSettings settings (do
      Console.say .info "Scheduler running (Ctrl+C to stop)"
      conclude (Dispatch.runScheduler call (.text db)) "Scheduler stopped")
  | .init force => writeSettings force

end Command

namespace Program

/-- The version of the program. -/
def version : Text := "mailgrid-ui, version 0.1.0"

/-- How the program is used. -/
def usage : Text :=
  "Usage: mailgrid-ui [--verbose] (run | preview | schedule | jobs | scheduler | init) ..."

/-- What a call asks for, carried out. -/
def run (call : Dispatch.Call) (argv : List Text) : Act Int := do
  match Command.named? argv with
  | .error u => Command.misuse u
  | .ok .help =>
    Console.echo usage
    return 0
  | .ok .version =>
    Console.echo version
    return 0
  | .ok (.something named) =>
    let settings ← Command.begin named.verbose
    match Command.ofWords? (← get).store named.name named.words with
    | .error u => Command.misuse u
    | .ok (.something command) => Command.perform call settings command
    | .ok _ =>
      Console.echo usage
      return 0

/-- Whether a failure means that nobody reads the answers any more. -/
def isUnread (f : Failure) : Bool :=
  f.kind.isA .osError && (Text.ofString "[Errno 32] ").isPrefixOf f.message

/-- How a call ends that failed: a request to exit gives the status or else a text to print, an
interruption is told in a word, answers that nobody reads are no failure, and everything else is
passed on. -/
def ending (f : Failure) (w : World) : Ending × World :=
  if f.kind.isA .systemExit then
    match f.status with
    | some n => (⟨n, none⟩, w)
    | none => (⟨1, none⟩, { w with out := w.out ++ f.message ++ ("\n" : Text) })
  else if f.kind.isA .keyboardInterrupt || f.kind.isA .eofError then
    (⟨1, none⟩, { w with err := w.err ++ ("\nAborted!\n" : Text) })
  else if isUnread f then (⟨1, none⟩, w)
  else (⟨1, some f⟩, w)

/-- How a call ends that gave a status or failed. -/
def ended : Except Failure Int × World → Ending × World
  | (.ok status, w) => (⟨status, none⟩, w)
  | (.error f, w) => ending f w

/-- A whole call of the program, with the way in which engines are called taken as given. -/
def callWith (engine : Dispatch.Call) (argv : List Text) (w : World) : Ending × World :=
  ended ((run engine argv).run.run w)

/-- A whole call of the program. -/
def call (argv : List Text) (w : World) : Ending × World :=
  callWith (Session.enter (Session.steps Session.depthLimit)) argv w

end Program

end CampaignDesk
