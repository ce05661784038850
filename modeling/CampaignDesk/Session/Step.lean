import CampaignDesk.Engine.Registry
import CampaignDesk.Journal.Record
import CampaignDesk.Order.Basic
import CampaignDesk.Scheduler.Task

/-!
# Steps of a session

What can be done with a desk, its scheduler handles, its engines and its files, as data. Whatever
calls back (an engine, the target of a background run, a listener) carries the steps that it takes
itself while it is called.

* `Source`: a form given as a payload or by its fields.
* `Step`: one thing to do.
* `Action`: what a scripted engine does when it is called.
* `Target`, `Listener`: what a background run does, and who is told of its end.
-/

namespace CampaignDesk

/-- Where a form comes from. -/
inductive Source
  | payload (v : Value)
  | fields (entries : Entries)

/-- The three operations on a form. -/
inductive Campaign
  | run
  | preview
  | schedule
deriving DecidableEq

/-- What can be asked of a scheduler handle. -/
inductive HandleQuery
  | text
  | status
  | running
  | done
  | cancelled
  | db
  | thread
  | result
  | failure
deriving DecidableEq

/-- One thing to do in a session. A handle or a set of temporary files is addressed by its number,
or else is the last one made. -/
inductive Step
  /-- An operation of the service on a form. -/
  | serve (operation : Campaign) (source : Source)
  | listJobs (db : Value)
  | cancelJob (job db : Value)
  | runScheduler (db : Value)
  | startScheduler (db : Value)
  | setTempDir (directory : Value)
  /-- The same operation at the desk. -/
  | ask (operation : Campaign) (source : Source)
  | askJobs (db : Value)
  | askCancel (job db : Value)
  | askStart (db : Value)
  | askStatus
  | saveServerConfig (config : Value) (path : Text)
  | loadServerConfig (path : Text)
  | saveText (path : Text) (content : Value)
  /-- A handle on a task of its own. -/
  | newHandle (db : Value)
  | startHandle (db : Value) (during : Option (List Step)) (outcome : Except Failure Value)
  | pump (handle : Option Nat)
  | query (handle : Option Nat) (what : HandleQuery)
  | cancel (handle : Option Nat)
  | beginTask (handle : Option Nat)
  | finishTask (handle : Option Nat) (outcome : Except Failure Value)
  | listen (handle : Option Nat) (name : Text) (during : Option (List Step))
      (failure : Option Failure)
  /-- A set of temporary files. -/
  | newTemp (directory : Value) (stem : Text)
  | writeTemp (files : Option Nat) (content suffix label : Text)
  | addTemp (files : Option Nat) (path : Text)
  | releaseTemp (files : Option Nat)
  | showTemp (files : Option Nat)
  | withTemp (files : Option Nat) (body : List Step) (failure : Option Failure)
  | prepare (source : Source) (forcePreview directory : Value)
  /-- The engines. -/
  | registerEngine (tag : Option Text)
  | getEngine (name : Option Text)
  | discoverEngines
  | callEngine (engine : Option Nat) (fields : Entries)
  | setEntryPoints (entryPoints : List EntryPoint)
  /-- The files themselves. -/
  | putFile (path : Text) (content : Bytes)
  | showFile (path : Text)
  | removeFile (path : Text)
  | listFiles

/-- What a scripted engine does in one call: it may remove the files it was given, take steps of
its own, and end with a value or a failure. -/
structure Action where
  deleteFiles : Bool
  during : Option (List Step)
  outcome : Except Failure Value

/-- What a background run does: the scheduler on a database, or steps with an outcome. -/
inductive Target
  | scheduler (db : Value)
  | steps (during : Option (List Step)) (outcome : Except Failure Value)

/-- Who is told of the end of a background run, and what they do then. -/
structure Listener where
  name : Text
  during : Option (List Step)
  failure : Option Failure

end CampaignDesk
