import CampaignDesk.Journal.Record
import CampaignDesk.Moment
import CampaignDesk.Settings.Home
import CampaignDesk.Text.Upper

/-!
# Settings

What can be set: where temporary files go, and where, from which level on and in which format the
log is written. Level and format are checked, the other two are taken as they come.

* `Settings`: settings.
* `Settings.ofFields?`: settings with some fields given by name.
* `Settings.ofDocument?`: the settings that a document describes.
* `Settings.logPath?`: the log file of a day.
-/

namespace CampaignDesk

/-- The formats of a log: lines of JSON, plain lines beside a console that is drawn, or plain lines
everywhere. Settings name one of the first two. -/
inductive LogFormat
  | structured
  | pretty
  | plain
deriving DecidableEq

namespace LogFormat

/-- The name of a format. -/
def name : LogFormat → String
  | .structured => "structured"
  | .pretty => "pretty"
  | .plain => "plain"

/-- The formats that settings may name. -/
def offered : List LogFormat := [.structured, .pretty]

/-- The format that a value names, if settings may name it. -/
def offered? : Value → Option LogFormat
  | .text t => offered.find? fun f => Text.ofString f.name = t
  | _ => none

/-- The format meant by a value: what names none is plain. -/
def ofValue (v : Value) : LogFormat := (offered? v).getD .plain

end LogFormat

/-- Settings. -/
structure Settings where
  tempDir : Value
  logFile : Value
  logLevel : Level
  logFormat : LogFormat

namespace Settings

/-- The names of the fields. -/
def fieldNames : List String := ["temp_dir", "log_file", "log_level", "log_format"]

/-- The settings where nothing is set. -/
def initial : Settings :=
  ⟨.null, .ofString "logs/mailgrid-ui-\x7bdate\x7d.log", .info, .pretty⟩

/-- The settings as a dictionary. -/
def entries (s : Settings) : Entries := [
  (.ofString "temp_dir", s.tempDir), (.ofString "log_file", s.logFile),
  (.ofString "log_level", .text s.logLevel.name),
  (.ofString "log_format", .ofString s.logFormat.name)]

/-- Settings that cannot be used. -/
def unusable (message : Text) : Failure := .new .settingsError message

/-- The level meant by a value: its text in capitals has to be one of the five names. -/
def level? (v : Value) : Except Failure Level := do
  let name := (← v.show?).upper
  match Level.ofName? name with
  | some l => return l
  | none => throw (unusable (("Invalid log_level: " : Text) ++ name))

/-- The format meant by a value. -/
def format? (v : Value) : Except Failure LogFormat :=
  match LogFormat.offered? v with
  | some f => .ok f
  | none => do
    let shown ← v.show?
    throw (unusable
      (("Invalid log_format: " : Text) ++ shown ++ (" (expected one of " : Text) ++
        Text.join ", " (LogFormat.offered.map fun f => Text.ofString f.name) ++ (")" : Text)))

/-- The settings with what some entries give, the rest as in `initial`; the level is looked at
before the format. -/
def overlay? (given : Entries) : Except Failure Settings := do
  let field (name : String) : Option Value := Value.lookup? (Text.ofString name) given
  let level ← ((field "log_level").map level?).getD (.ok initial.logLevel)
  let format ← ((field "log_format").map format?).getD (.ok initial.logFormat)
  return ⟨(field "temp_dir").getD initial.tempDir, (field "log_file").getD initial.logFile, level,
    format⟩

/-- Whether a key names a field. -/
def isField : Key → Bool
  | .text t => fieldNames.any fun n => Text.ofString n = t
  | _ => false

/-- The settings with the given fields; a field that does not exist is refused. -/
def ofFields? (given : Entries) : Except Failure Settings :=
  match given.find? fun e => !isField e.1 with
  | some (k, _) => .error (.unknownField "MailgridUIConfig" k)
  | none => overlay? given

/-- The text of a key that is one. -/
def textKey? : Key → Option Text
  | .text t => some t
  | _ => none

/-- What is said of keys that name no field. Keys that are no texts cannot be listed, and keys of
different types cannot even be put in order. -/
def unknownKeys (first : Key) (rest : List Key) : Failure :=
  match (first :: rest).mapM textKey? with
  | some names => unusable (("Unknown config keys: " : Text) ++ Text.join ", " (Text.sort names))
  | none =>
    let type (k : Key) : Text := Text.ofString k.toValue.typeName
    match rest.find? fun k => k.number?.isNone || first.number?.isNone with
    | some other =>
      .typeError
        (("'<' not supported between instances of '" : Text) ++ type other ++
          ("' and '" : Text) ++ type first ++ ("'" : Text))
    | none =>
      .typeError
        (("sequence item 0: expected str instance, " : Text) ++ type first ++ (" found" : Text))

/-- The settings that a document at a path describes: an empty one leaves everything as it is. -/
def ofDocument? (path : PathForm) : Value → Except Failure Settings
  | .null => .ok initial
  | .dict given =>
    match (given.map (·.1)).filter fun k => !isField k with
    | first :: rest => .error (unknownKeys first rest)
    | [] => overlay? given
  | _ =>
    .error (unusable (("Configuration file must be a mapping: " : Text) ++ path.toText))

/-- The place of the day in the name of a log file. -/
def datePlace : Text := "\x7bdate\x7d"

/-- The log file of a day: below the given directory, or else below the home of the desk. -/
def logPath? (s : Settings) (e : Environment) (now : Moment) (directory : Option PathForm) :
    Except Failure PathForm :=
  match s.logFile with
  | .text name => do
    let path ← e.expand? (.ofText (Text.replace datePlace now.date name))
    if path.isAbsolute then return path
    else
      let base ← match directory with
        | some d => pure d
        | none => e.home?
      return base.below path
  | v => .error (.noAttribute v "replace")

end Settings

end CampaignDesk
