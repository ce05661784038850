import CampaignDesk.Host
import CampaignDesk.Journal.Line

/-!
# Where log records go

The loggers of the desk share a list of handlers, each of which takes every record that is grave enough: a
log file, and perhaps a console. Setting the log up anew clears the list first; what was written before
stays in its file. Records below the threshold go nowhere. A logger that is none of the desk's own, or one
that was never set up, complains on the console. A handler that fails says so there, too.

* `LogHandler`, `Logging`: a handler; the handlers and the threshold.
* `Logging.setUp`: setting the log up.
* `Logging.superseded`: a log file whose place was taken gets no more lines.
* `LogTrace`: what a handler does with a record. `LogHandler.take`, `Logging.traces`: what each of them does.
-/

namespace CampaignDesk

/-- A log file: where it is, unless it is gone and another file has taken its place, and how its
lines are written. -/
structure LogFile where
  location : Option Location
  format : LogFormat
deriving DecidableEq

/-- A console that shows records: line by line, or drawn by the terminal. -/
inductive LogConsole
  | lines
  | drawn
deriving DecidableEq

/-- Somewhere for log records to go. -/
inductive LogHandler
  | file (f : LogFile)
  | console (c : LogConsole)
deriving DecidableEq

/-- Where log records go, in turn, and the weight that they need. -/
structure Logging where
  threshold : Nat
  handlers : List LogHandler
deriving DecidableEq

/-- How the log is to be set up. -/
structure LogRequest where
  path : PathForm
  level : Value
  format : LogFormat
  console : Bool

namespace Logging

/-- The log before it is set up. -/
def closed : Logging := ⟨0, []⟩

/-- The log with one more handler. -/
def add (l : Logging) (h : LogHandler) : Logging := { l with handlers := l.handlers ++ [h] }

/-- The first log file that records go to. -/
def file (l : Logging) : Option LogFile :=
  l.handlers.findSome? fun
    | .file f => some f
    | .console _ => none

/-- The first console that records go to. -/
def console (l : Logging) : Option LogConsole :=
  l.handlers.findSome? fun
    | .file _ => none
    | .console c => some c

/-- The name that the loggers of the desk share. -/
def package : Text := "mailgrid_ui"

/-- Whether a logger is one of the desk's own: the shared name, or one below it. -/
def isOwn (logger : Text) : Bool :=
  logger = package || (package ++ ("." : Text)).isPrefixOf logger

/-- The weight of the level with a name in capitals. -/
def weight? (name : Text) : Except Failure Nat :=
  match Level.named? name with
  | some l => .ok l.weight
  | none =>
    if name = Text.ofString "BASIC_FORMAT" then
      .error (.valueError "Unknown level: '%(levelname)s:%(name)s:%(message)s'")
    else
      .error (.new .attributeError
        (("module 'logging' has no attribute '" : Text) ++ name ++ ("'" : Text)))

/-- The weight of a level by its name in any case of letters. -/
def threshold? : Value → Except Failure Nat
  | .text name => weight? name.upper
  | v => .error (.noAttribute v "upper")

/-- The console that a request asks for. -/
def console? (r : LogRequest) : Option LogConsole :=
  if !r.console then none
  else if r.format = .pretty then some .drawn
  else some .lines

/-- Opens a log file, which is made if need be: the store, and where the file is. The path is taken
the shortest way that it can be written. -/
def openFile? (store : Store) (path : PathForm) : Except Failure (Store × Location) := do
  let written := Path.normalize path.toText
  let store ← store.append? written []
  return (store, ← Store.about written (store.locate? written))

/-- Sets the log up: how that ends, the store and the log. The directory of the file is made first,
then the level is looked at, and the file is opened last; by then the handlers from before are gone. -/
def setUp (r : LogRequest) (store : Store) (l : Logging) :
    Except Failure Unit × Store × Logging :=
  match store.makeDirectories? r.path.parent with
  | .error f => (.error f, store, l)
  | .ok store =>
    match threshold? r.level with
    | .error f => (.error f, store, l)
    | .ok threshold =>
      let cleared : Logging := ⟨threshold, []⟩
      match openFile? store r.path with
      | .error f => (.error f, store, cleared)
      | .ok (store, location) =>
        let opened := cleared.add (.file ⟨some location, r.format⟩)
        (.ok (), store, (console? r).elim opened fun c => opened.add (.console c))

/-- The log once a file has been made where nothing stood: a log file that was there before is
gone, and its lines do not go into the new one. -/
def superseded (l : Logging) (made : Location) : Logging :=
  { l with handlers := l.handlers.map fun h =>
      match h with
      | .file f => .file (if f.location = some made then { f with location := none } else f)
      | .console c => .console c }

/-- The weight that a record of the desk needs; without a threshold it is that of a warning. -/
def needed (l : Logging) : Nat := if l.threshold = 0 then Level.warning.weight else l.threshold

/-- Whether a record goes to the handlers of the desk. -/
def accepts (l : Logging) (r : Record) : Bool := isOwn r.logger && l.needed ≤ r.level.weight

/-- Whether nobody is there to take a record, so that it is complained about. -/
def isUnattended (l : Logging) (r : Record) : Bool :=
  if isOwn r.logger then l.handlers.isEmpty && l.accepts r else true

end Logging

/-- What a handler does with a record: it writes bytes into its file, shows a text among the answers or among
the complaints, or fails with a failure that goes to whoever logged the record. -/
inductive LogTrace
  | written (f : LogFile) (bytes : Bytes)
  | shown (t : Text)
  | said (t : Text)
  | passed (f : Failure)

namespace LogTrace

/-- A failure of a handler is reported, unless it asks to stop or comes of nesting too deep. -/
def failed (host : Host) (r : Record) (f : Failure) : LogTrace :=
  if f.kind.isOrdinary && !f.kind.isA .recursionError then .said (host.report r f) else .passed f

/-- Bytes at the end of an open file, unless the file is gone. -/
def addBytes (store : Store) (l : Location) (bytes : Bytes) : Store :=
  match store.node? l with
  | some (.file content) => store.put l (.file (content ++ bytes))
  | _ => store

/-- The store after a handler has done with a record. -/
def leave (store : Store) : LogTrace → Store
  | .written ⟨some l, _⟩ bytes => addBytes store l bytes
  | _ => store

/-- What is shown among the answers. -/
def out : LogTrace → Text
  | .shown t => t
  | _ => []

/-- What is shown among the complaints. -/
def err : LogTrace → Text
  | .said t => t
  | _ => []

/-- Whether a failure goes to whoever logged the record. -/
def isPassed : LogTrace → Bool
  | .passed _ => true
  | _ => false

/-- The traces up to the first failure that goes to whoever logged the record. -/
def untilPassed : List LogTrace → List LogTrace
  | [] => []
  | t :: rest => if t.isPassed then [t] else t :: untilPassed rest

end LogTrace

namespace LogHandler

/-- The line of a record in a file, for a writer of JSON with room for so many levels of nesting. -/
def line? (format : LogFormat) (room : Nat) (r : Record) (now : Moment) : Except Failure Text := do
  let line ← match format with
    | .structured => r.structuredLine? room now
    | .pretty | .plain => pure (r.plainLine now)
  return line ++ ("\n" : Text)

/-- What a handler does with a record whose message is in place. -/
def write (host : Host) (r : Record) (now : Moment) : LogHandler → LogTrace
  | .file f =>
    match line? f.format host.writing r now with
    | .error failure => .failed host r failure
    | .ok line =>
      match Utf8.encode? line with
      | .ok bytes => .written f bytes
      | .error fault => .failed host r (.unencodable fault)
  | .console .lines => .said (r.consoleLine ++ ("\n" : Text))
  | .console .drawn =>
    match Utf8.encode? (host.drawn r) with
    | .ok _ => .shown (host.drawn r)
    | .error fault => .failed host r (.unencodable fault)

/-- What a handler does with a record and what came of filling in its message. A drawn console reports
no failure of that kind. -/
def take (host : Host) (r : Record) (message : Except Failure Text) (now : Moment) (h : LogHandler) :
    LogTrace :=
  match message with
  | .ok message => h.write host { r with message := message } now
  | .error f => if h = .console .drawn then .passed f else .failed host r f

end LogHandler

namespace Logging

/-- What is said of a record that nobody is there to take. -/
def bareTrace (host : Host) (r : Record) : (message : Except Failure Text) → LogTrace
  | .ok message => .said (Record.bareLine { r with message := message } ++ ("\n" : Text))
  | .error f => .failed host r f

/-- What is done with a record and what came of filling in its message, by one handler after the other. -/
def traces (l : Logging) (host : Host) (r : Record) (message : Except Failure Text) (now : Moment) :
    List LogTrace :=
  if l.isUnattended r then
    if Level.warning.weight ≤ r.level.weight then [bareTrace host r message] else []
  else if l.accepts r then LogTrace.untilPassed (l.handlers.map (·.take host r message now))
  else []

end Logging

end CampaignDesk
