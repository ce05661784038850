import CampaignDesk.Command.Run

/-!
# What a call can reach

The paths that a call may look at or change, as far as the files known so far tell: the settings,
the log, the files named in its words and in the request files among them, and the directories for
temporary files.

* `Program.reach`: those paths.
-/

namespace CampaignDesk

mutual

/-- Every text inside a value. -/
def Value.texts : Value → List Text
  | .text t => [t]
  | .list items | .tuple items => itemTexts items
  | .dict entries => entryTexts entries
  | _ => []
termination_by structural v => v

/-- Every text inside some values. -/
def Value.itemTexts : List Value → List Text
  | [] => []
  | v :: vs => Value.texts v ++ Value.itemTexts vs
termination_by structural vs => vs

/-- Every text among the values of a dictionary. -/
def Value.entryTexts : Entries → List Text
  | [] => []
  | (_, v) :: rest => Value.texts v ++ Value.entryTexts rest
termination_by structural es => es

end

namespace Program

/-- The paths that follow from settings. -/
def settingsReach (w : World) : Except Failure (List Text) := do
  let file ← Settings.path? w.environment
  match Settings.loadBy? w.host.yaml w.environment w.store with
  | .error _ => return [file.toText]
  | .ok settings =>
    let log := match settings.logPath? w.environment w.now none with
      | .ok path => [path.toText]
      | .error _ => []
    return file.toText :: log ++ settings.tempDir.texts

/-- The paths that a request file names. -/
def requestReach (w : World) (word : Text) : List Text :=
  match w.store.readJson? w.host.reading (.ofText word) with
  | .ok v => v.texts
  | .error _ => []

/-- The paths that a call may look at or change. -/
def reach (w : World) (argv : List Text) : List Text :=
  let settings := match settingsReach w with
    | .ok paths => paths
    | .error _ => []
  let paths := w.systemTemp :: settings ++ argv ++ argv.flatMap (requestReach w)
  paths.filter fun p => !p.isEmpty && (Path.refusal? p).isNone

end Program

end CampaignDesk
