import CampaignDesk.Command.Words
import CampaignDesk.Store.Basic
import CampaignDesk.Text.Whole

/-!
# Commands

What the program can be asked to do, and how it is asked. Options and arguments are looked at in the
order in which they are given, options first, and words that are left over come last.

* `Command`: the commands.
* `Asked`: what a call asks for.
* `Command.named?`: the command that a call names, with the words behind it.
* `Command.ofWords?`: the command that those words describe.
-/

namespace CampaignDesk

/-- The commands, with what they were told. A campaign is described by a request file. -/
inductive Command
  | run (file : Text) (dryRun : Bool)
  | preview (file : Text) (port : Option Int)
  | schedule (file : Text) (at? interval cron db : Option Text)
  | listJobs (db : Text) (asJson : Bool)
  | cancelJob (job db : Text)
  | scheduler (db : Text)
  | init (force : Bool)
deriving DecidableEq

/-- What a call asks for: something, or only to be told how the program is used. -/
inductive Asked (α : Type)
  | help
  | version
  | something (what : α)

/-- A call of the program: whether it is to tell more, which command it names, and the words behind
that name. -/
structure Command.Named where
  verbose : Bool
  name : Text
  words : List Text

/-- An option without a value. -/
def Switch.flag (name : String) : Switch := ⟨Text.ofString name, none, false⟩

/-- An option with a value. -/
def Switch.option (name : String) : Switch := ⟨Text.ofString name, none, true⟩

namespace Command

/-- The option that asks how a command is used. -/
def helpSwitch : Switch := .flag "--help"

/-- The options that stand before the name of a command. -/
def programSwitches : List Switch :=
  [⟨"--verbose", some 0x76, false⟩, .flag "--version", helpSwitch]

/-- The names of the commands. -/
def names : List String := ["run", "preview", "schedule", "jobs", "scheduler", "init"]

/-- The names of the commands on jobs. -/
def jobNames : List String := ["list", "cancel"]

/-- Whether a word is one of some names. -/
def isOneOf (names : List String) (word : Text) : Bool := names.any fun n => Text.ofString n = word

/-- The command that a call names. -/
def named? (argv : List Text) : Except Usage (Asked Named) :=
  match argv with
  | [] => .error .nothingGiven
  | argv => do
    let w ← Words.read? programSwitches false argv
    match w.options.find? fun o => o.1 = Text.ofString "--version" || o.1 = helpSwitch.name with
    | some (name, _) => return if name = helpSwitch.name then .help else .version
    | none =>
      match w.arguments with
      | [] => throw .commandMissing
      | name :: rest =>
        if isOneOf names name then
          return .something ⟨w.has "--verbose", name, rest⟩
        else throw (.noSuchCommand name)

/-- The single argument of a command, with the words left over. -/
def argument? (name : Text) : List Text → Except Usage (Text × List Text)
  | [] => .error (.argumentMissing name)
  | word :: rest => .ok (word, rest)

/-- No words may be left over. -/
def none? : List Text → Except Usage Unit
  | [] => .ok ()
  | words => .error (.argumentsLeft words)

/-- What an argument is called that names a request file. -/
def fileArgument : Text := "REQUEST_FILE"

/-- A request file has to be there and must not be a directory. -/
def checkFile (store : Store) (path : Text) : Except Usage Unit :=
  let wrong (what : Text) : Usage :=
    .invalidValue (some fileArgument) (("File " : Text) ++ path.quoted ++ what)
  match Path.refusal? path with
  | some f => .error (.refused f)
  | none =>
    match store.lookup? path with
    | .ok (_, .file _) => .ok ()
    | .ok (_, .directory) => .error (wrong " is a directory.")
    | .error _ => .error (wrong " does not exist.")

/-- The request file of a command, which is its only argument. -/
def file? (store : Store) (w : Words) : Except Usage Text := do
  let (path, rest) ← argument? fileArgument w.arguments
  checkFile store path
  none? rest
  return path

/-- The whole number that an option gives. -/
def port? (w : Words) : Except Usage (Option Int) :=
  match w.value? "--port" with
  | none => .ok none
  | some t =>
    match t.toInt? with
    | some n => .ok (some n)
    | none =>
      .error (.invalidValue (some "--port") (t.quoted ++ (" is not a valid integer." : Text)))

/-- Reads the words of a command with the given options; who asks for help gets it before the words
are looked at more closely. -/
def reading (switches : List Switch) (words : List Text)
    (command? : Words → Except Usage Command) : Except Usage (Asked Command) := do
  let w ← Words.read? (switches ++ [helpSwitch]) true words
  if w.has helpSwitch.name then return .help
  else return .something (← command? w)

/-- The database that a command on jobs is told. -/
def db (w : Words) : Text := (w.value? "--db").getD []

/-- The command on jobs that some words describe. -/
def ofJobWords? (name : Text) (words : List Text) : Except Usage (Asked Command) :=
  if name = Text.ofString "list" then
    reading [.option "--db", .flag "--json"] words fun w => do
      none? w.arguments
      return .listJobs (db w) (w.has "--json")
  else
    reading [.option "--db"] words fun w => do
      let (job, rest) ← argument? "JOB_ID" w.arguments
      none? rest
      return .cancelJob job (db w)

/-- The words behind `jobs`. -/
def ofJobs? (words : List Text) : Except Usage (Asked Command) :=
  match words with
  | [] => .error .nothingGiven
  | words => do
    let w ← Words.read? [helpSwitch] false words
    if w.has helpSwitch.name then return .help
    match w.arguments with
    | [] => throw .commandMissing
    | name :: rest =>
      if isOneOf jobNames name then ofJobWords? name rest else throw (.noSuchCommand name)

/-- The command that some words behind its name describe. -/
def ofWords? (store : Store) (name : Text) (words : List Text) : Except Usage (Asked Command) :=
  if name = Text.ofString "run" then
    reading [.flag "--dry-run"] words fun w => do
      return .run (← file? store w) (w.has "--dry-run")
  else if name = Text.ofString "preview" then
    reading [.option "--port"] words fun w => do
      let port ← port? w
      return .preview (← file? store w) port
  else if name = Text.ofString "schedule" then
    reading [.option "--at", .option "--interval", .option "--cron", .option "--db"] words
      fun w => do
        return .schedule (← file? store w) (w.value? "--at") (w.value? "--interval")
          (w.value? "--cron") (w.value? "--db")
  else if name = Text.ofString "jobs" then ofJobs? words
  else if name = Text.ofString "scheduler" then
    reading [.option "--db"] words fun w => do
      none? w.arguments
      return .scheduler (db w)
  else
    reading [.flag "--force"] words fun w => do
      none? w.arguments
      return .init (w.has "--force")

end Command

end CampaignDesk
