import CampaignDesk.Journal.Basic
import CampaignDesk.Journal.Logging
import CampaignDesk.Session.Step

/-!
# The world

All state that operations act on, and the effects they are written in: an operation gives a value
or a failure, and a new world in either case.

* `World`: files, temporary file calls with the faults set for them, engines, the service, the
  desk, scheduler handles, the journal, and what has been printed.
* `Act`: operations; `Act.attempt` and `Act.ensure` look at how one ended.
* `Act.record`, `Act.log`: writing the journal; log records also go where the log is set up to go.
-/

namespace CampaignDesk

/-- The calls to the system by which temporary files come and go. -/
inductive TempCall
  | create
  | «open»
  | remove
deriving DecidableEq

/-- A fault set for the `index`-th call of a kind, counted from one. -/
structure TempFault where
  call : TempCall
  index : Nat
  failure : Failure

/-- A set of temporary files: where they are made, how their names begin, the paths registered so
far, and whether they have been released. -/
structure TempFiles where
  directory : Value
  stem : Text
  paths : List Text
  released : Bool

/-- What the service works with: an engine of its own, if it was given one, and the directory for
temporary files. -/
structure Service where
  engine : Option EngineRef
  tempDir : Value

/-- A handle on a background run; without a target it has no thread. -/
structure Handle where
  db : Value
  state : Task.State
  target : Option Target
  listeners : List Listener
  notified : Bool

/-- The actions of the scripted engine, and how often it has been called. -/
structure Script where
  actions : List Action
  calls : Nat

/-- All state. `systemTemp` is where temporary files go unless told otherwise, `scheduler` is the
number of the handle that the desk started last, `made` are the sets of temporary files and
`fetched` the engines that a session can refer to, and `current` is the number of the present step
out of `steps` begun so far. `out` and `err` are the texts printed so far, the answers and the
complaints, before either channel turns them into bytes, and `host` is what all of this runs on. -/
structure World where
  store : Store
  cwd : Except Failure Text
  environment : Environment
  systemTemp : Text
  now : Moment
  faults : List TempFault
  counts : TempCall → Nat
  registry : Registry
  script : Script
  service : Service
  scheduler : Option Nat
  handles : List Handle
  made : List TempFiles
  fetched : List EngineRef
  journal : Journal
  logging : Logging
  out : Text
  err : Text
  current : Nat
  steps : Nat
  host : Host := .usual

/-- The world once a log record has been handed over with what came of filling in its message. A failure that
goes to whoever logged the record is not followed any further: the desk's own records lead to none. -/
def World.handed (w : World) (r : Record) (message : Except Failure Text) : World :=
  let traces := w.logging.traces w.host r message w.now
  { w with
    store := traces.foldl LogTrace.leave w.store
    out := w.out ++ traces.flatMap LogTrace.out
    err := w.err ++ traces.flatMap LogTrace.err }

/-- An operation. -/
abbrev Act := ExceptT Failure (StateM World)

namespace Act

/-- How an operation ends, without ending there itself. -/
def attempt {α : Type} (act : Act α) : Act (Except Failure α) :=
  fun w => ((.ok (act.run.run w).1 : Except Failure (Except Failure α)), (act.run.run w).2)

/-- The value of an operation that has ended. -/
def settle {α : Type} (outcome : Except Failure α) : Act α :=
  fun w => (outcome, w)

/-- An operation with another one after it however the first ends; if both fail, the failure of the
second is the one that counts. -/
def ensure {α : Type} (act : Act α) (afterwards : Act Unit) : Act α := do
  let outcome ← attempt act
  afterwards
  settle outcome

/-- Writes an entry of the present step into the journal. -/
def record (e : Entry) : Act Unit :=
  modify fun w => { w with journal := w.journal ++ [(w.current, e)] }

/-- Hands a log record to where the log is set up to go. -/
def emit (r : Record) : Act Unit := modify fun w => w.handed r (.ok r.message)

/-- A log record. -/
def note (r : Record) : Act Unit := do
  record (.log r)
  emit r

/-- A log record without an operation. -/
def log (level : Level) (logger : String) (message : Text) : Act Unit :=
  note ⟨level, Text.ofString logger, message, none, none⟩

/-- Sets the log up. -/
def setUpLogging (r : LogRequest) : Act Unit := do
  let w ← get
  let (outcome, store, logging) := w.logging.setUp r w.store
  set { w with store := store, logging := logging }
  settle outcome

/-- A log record with a failure. -/
def logFailure (level : Level) (logger : String) (message : Text) (f : Failure) : Act Unit :=
  note ⟨level, Text.ofString logger, message, none, some f⟩

end Act

end CampaignDesk
