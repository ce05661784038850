import CampaignDesk.World

/-!
# Temporary files

Inline templates and recipients are written to fresh files so that an engine can read them by path.
Every file made is registered before it is written, and releasing removes what is registered,
path by path, whatever became of the paths before; a second release does nothing.

* `Drafting`: operations on a set of temporary files.
* `Drafting.write`: a fresh file with some content.
* `Drafting.release`: removes every registered path.
-/

namespace CampaignDesk

namespace TempCall

/-- Counts a call, and fails if a fault is set for it. -/
def enter (call : TempCall) : Act Unit := fun w =>
  let n := w.counts call + 1
  let w := { w with counts := fun c => if c = call then n else w.counts c }
  match w.faults.find? fun f => f.call = call && f.index = n with
  | some f => (.error f.failure, w)
  | none => (.ok (), w)

/-- The path of the `number`-th file in a directory, or in the one of the system if none is given. A directory
that is not named from the root is taken as it is named. -/
def path? (system : Text) (directory : Value) (stem suffix : Text) (number : Nat) :
    Except Failure Text :=
  let name := stem ++ Text.ofNat number ++ suffix
  match directory with
  | .null => .ok (Path.join system name)
  | .text d => .ok (Path.join d name)
  | v =>
    .error (.typeError
      (("expected str, bytes or os.PathLike object, not " : Text) ++ Text.ofString v.typeName))

/-- Makes an empty file where nothing stood; its name ends with the number of calls so far. The working directory
is not asked for, even if the directory is not named from the root: where that would fail, the failure is one of
those that are set for the call. -/
def createFile (directory : Value) (stem suffix : Text) : Act (Text × Location) := do
  enter .create
  let w ← get
  let path ← Act.settle (path? w.systemTemp directory stem suffix (w.counts .create))
  let (store, l) ← Act.settle (w.store.create? path)
  set { w with store := store, logging := w.logging.superseded l }
  return (path, l)

/-- Opens the file at a location and puts a text into it. A text without bytes leaves it empty. -/
def fillFile (l : Location) (content : Text) : Act Unit := do
  enter .open
  match Utf8.encode? content with
  | .error fault => throw (.unencodable fault)
  | .ok bytes => modify fun w => { w with store := w.store.put l (.file bytes) }

/-- Removes the file that a path leads to. -/
def removeFile (path : Text) : Act Unit := do
  enter .remove
  let w ← get
  set { w with store := ← Act.settle (w.store.remove? path) }

end TempCall

/-- Operations on a set of temporary files, which keeps what was done to it if one fails. -/
abbrev Drafting := ExceptT Failure (StateT TempFiles (StateM World))

namespace Drafting

/-- An operation that leaves the set as it is. -/
def lift {α : Type} (act : Act α) : Drafting α :=
  fun (t : TempFiles) => fun w => (((act w).1, t), (act w).2)

/-- The logger of temporary files. -/
def logger : String := "mailgrid_ui.artifacts"

/-- Registers a path. -/
def add (path : Text) : Drafting Unit :=
  modify fun t => { t with paths := t.paths ++ [path] }

/-- A failure to do something with the file that `label` names. -/
def failed (what : String) (label : Text) (f : Failure) : Failure :=
  (Failure.new .tempWriteFailed
    (Text.ofString what ++ (" temp " : Text) ++ label ++ (": " : Text) ++ f.message)).because f

/-- A fresh file with the given content, registered as soon as it is there. An error of the system
or of the encoding becomes a failure of the write. -/
def write (content suffix label : Text) : Drafting Text := do
  let t ← get
  let (path, l) ← match ← lift (Act.attempt (TempCall.createFile t.directory t.stem suffix)) with
    | .ok made => pure made
    | .error f => throw (if f.kind.isA .osError then failed "failed to create" label f else f)
  add path
  match ← lift (Act.attempt (TempCall.fillFile l content)) with
  | .ok () => pure ()
  | .error f =>
    throw (if f.kind.isA .osError || f.kind.isA .unicodeError then
      failed "failed to write" label f else f)
  lift (Act.log .debug logger
    (("Wrote temp " : Text) ++ label ++ (": " : Text) ++ path))
  return path

/-- Removes registered paths, one after the other. An error of the system leaves the file and is
passed over. -/
def removeAll : List Text → Act Unit
  | [] => pure ()
  | path :: rest => do
    match ← Act.attempt (TempCall.removeFile path) with
    | .ok () => pure ()
    | .error f =>
      if f.kind.isA .osError then
        Act.log .debug logger
          (("Could not remove temp artifact " : Text) ++ path ++ (": " : Text) ++ f.message)
      else throw f
    removeAll rest

/-- Removes every registered path, the first time only. -/
def release : Drafting Unit := do
  let t ← get
  if t.released then return
  set { t with released := true }
  lift (removeAll t.paths)

end Drafting

namespace TempFiles

/-- How the names of temporary files begin unless told otherwise. -/
def defaultStem : Text := "mailgrid-ui-"

/-- A set with nothing in it. -/
def none (directory : Value) (stem : Text) : TempFiles := ⟨directory, stem, [], false⟩

/-- Runs operations on a set: how they end, and the set afterwards. -/
def run {α : Type} (t : TempFiles) (drafting : Drafting α) : Act (Except Failure α × TempFiles) :=
  fun w => (.ok (drafting t w).1, (drafting t w).2)

/-- Removes every registered path, the first time only. -/
def release (t : TempFiles) : Act Unit := do
  let (outcome, _) ← t.run Drafting.release
  Act.settle outcome

/-- The set as it shows itself. -/
def display (t : TempFiles) : Text :=
  ("TempArtifacts(paths=" : Text) ++ Text.ofNat t.paths.length ++ (", released=" : Text) ++
    literalBool t.released ++ (")" : Text)

end TempFiles

end CampaignDesk
