import CampaignDesk.Settings.Basic
import CampaignDesk.Store.Document
import CampaignDesk.Yaml.Node

/-!
# The settings file

Settings are read from the file `config.yaml` in the home of the desk; where there is none, nothing
is set. A new file says what holds when nothing is set.

* `Settings.path?`: where the file is.
* `Settings.Parsed`: what a parser makes of a file.
* `Settings.readBy?`, `Settings.readWith?`, `Settings.read?`: the settings in a file, for any parser of
  files, for any parser of texts, and for that of YAML.
* `Settings.loadBy?`, `Settings.load?`: the settings of an environment.
* `Settings.initialDocument`: the text of a new file.
-/

namespace CampaignDesk.Settings

/-- Where the settings file is. -/
def path? (e : Environment) : Except Failure PathForm := do
  return (← e.home?).below (.ofText "config.yaml")

/-- What a parser makes of a file: a document, or a complaint about its syntax, or a failure of another
kind, which never asks to stop. A document with a value that only the parser knows, such as a date, counts
as the failure that this value leads to. -/
inductive Parsed
  | document (v : Value)
  | malformed (complaint : Text)
  | failed (f : Failure) (ordinary : f.kind.isOrdinary = true)

/-- What a parser of texts makes of a file. -/
def Parsed.ofText (parse : Text → Option Value) (content : Bytes) : Parsed :=
  match Utf8.decode? content with
  | .error fault => .failed (.undecodable fault) rfl
  | .ok t =>
    match parse t.unifyLineEnds with
    | some v => .document v
    | none => .malformed []

/-- The settings that come of a file at a path. -/
def ofParsed? (path : PathForm) : Parsed → Except Failure Settings
  | .document v => ofDocument? path v
  | .malformed complaint =>
    .error (unusable (("Invalid YAML syntax in " : Text) ++ path.toText ++
      (if complaint.isEmpty then [] else (": " : Text) ++ complaint)))
  | .failed f _ => .error f

/-- The settings in a file that is read by a given parser, or those that hold where there is no file. -/
def readBy? (parse : Bytes → Parsed) (store : Store) (path : PathForm) : Except Failure Settings := do
  if !(← store.probe? path.toText) then return initial
  ofParsed? path (parse (← store.read? path.toText))

/-- The settings in a file whose text is read by a given parser. -/
def readWith? (parse : Text → Option Value) (store : Store) (path : PathForm) :
    Except Failure Settings :=
  readBy? (.ofText parse) store path

/-- The settings in a file. -/
def read? (store : Store) (path : PathForm) : Except Failure Settings :=
  readWith? Yaml.read? store path

/-- The settings of an environment, whose file is read by a given parser. -/
def loadBy? (parse : Bytes → Parsed) (e : Environment) (store : Store) : Except Failure Settings := do
  readBy? parse store (← path? e)

/-- The settings of an environment. -/
def load? (e : Environment) (store : Store) : Except Failure Settings :=
  loadBy? (.ofText Yaml.read?) e store

/-- The text of a new settings file. -/
def initialDocument : Text :=
  "temp_dir: null\nlog_file: logs/mailgrid-ui-\x7bdate\x7d.log\nlog_level: INFO\nlog_format: pretty\n"

end CampaignDesk.Settings
