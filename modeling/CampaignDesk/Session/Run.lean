import CampaignDesk.Desk

/-!
# Running a session

Steps are taken one after the other, and each answers, whether it fails or not. Inside a step an
engine, a target or a listener may take steps of its own; how deep such calls may go is bounded,
and a call beyond the bound fails.

* `Session.enter`: a call of a scripted engine.
* `Session.perform`: what one step does.
* `Session.steps`: a list of steps within a bound of nesting.
-/

namespace CampaignDesk.Session

/-- What is said of calls that go too deep. -/
def tooDeep : Failure := .new .recursionError "maximum recursion depth exceeded"

/-- The action of the engine's next call: the last one repeats, and an engine without any does
nothing. -/
def nextAction (script : Script) : Action :=
  (script.actions[script.calls]?.or script.actions.getLast?).getD ⟨false, none, .ok .null⟩

/-- The file at a path of an order, if there is one. -/
def fileAt? (store : Store) : Value → Option (Text × Bytes)
  | .text path =>
    match store.read? path with
    | .ok content => some (path, content)
    | .error _ => none
  | _ => none

/-- The template and recipient files of an order, each once. -/
def filesOf (store : Store) (order : Order) : List (Text × Bytes) :=
  let template := (fileAt? store (order.get .templatePath)).toList
  let recipients := (fileAt? store (order.get .csvPath)).toList
  template ++ recipients.filter fun f => !(template.any fun g => g.1 = f.1)

/-- Removes files as far as they can be removed. -/
def removeAll (store : Store) (paths : List Text) : Store :=
  paths.foldl (fun s path =>
    match s.remove? path with
    | .ok s => s
    | .error _ => s) store

/-- What a scripted engine does in one call: it may remove the files it was given and take steps,
and ends as its action says. -/
def enact (nested : Scheduler.Nested) (files : List Text) (action : Action) : Act Value := do
  if action.deleteFiles then
    modify fun w => { w with store := removeAll w.store files }
  match action.during with
  | some steps => Act.record (.during (← nested steps))
  | none => pure ()
  Act.settle action.outcome

/-- A call of an engine: a scripted one records the call and does what its next action says. -/
def enter (nested : Scheduler.Nested) : Dispatch.Call
  | .missing, _ => throw Engine.notInstalled
  | .scripted tag, order => do
    let w ← get
    let files := filesOf w.store order
    set { w with script := { w.script with calls := w.script.calls + 1 } }
    Act.record (.call ⟨order, files, tag⟩)
    enact nested (files.map (·.1)) (nextAction w.script)

/-- The number meant by an address: the last one unless a number is given. -/
def addressed (number : Option Nat) (count : Nat) : Nat := number.getD (count - 1)

/-- The number of an addressed handle. -/
def handleNumber (number : Option Nat) : Act Nat := do
  return addressed number (← get).handles.length

/-- An operation on an addressed set of temporary files. -/
def onTemp {α : Type} (number : Option Nat) (drafting : Drafting α) : Act α := do
  let w ← get
  let n := addressed number w.made.length
  match w.made[n]? with
  | none => throw (.new .indexError "list index out of range")
  | some t =>
    let (outcome, t) ← t.run drafting
    modify fun w => { w with made := w.made.set n t }
    Act.settle outcome

/-- A new set of temporary files that a session can refer to. -/
def addTemp (t : TempFiles) : Act Unit := modify fun w => { w with made := w.made ++ [t] }

/-- What a handle answers. -/
def answerQuery (h : Handle) : HandleQuery → Except Failure Reply
  | .text => .ok (.value (.text h.display))
  | .status => .ok (.value (.ofString h.status.name))
  | .running => .ok (.value (.bool h.state.isRunning))
  | .done => .ok (.value (.bool h.state.isDone))
  | .cancelled => .ok (.value (.bool h.state.isCancelled))
  | .db => .ok (.value h.db)
  | .thread =>
    .ok (.value (if h.target.isSome then
      .list [.ofString "mailgrid-scheduler", .bool true, .bool true] else .null))
  | .result => h.state.result?.map .value
  | .failure => h.state.failure?.map .failure

/-- How a new handle shows itself. -/
def showNew (n : Nat) : Act Reply := do return .value (.text (← Scheduler.handle n).display)

/-- How an engine is named in answers. -/
def engineName : EngineRef → Value
  | .scripted (some tag) => .text tag
  | .scripted none => .null
  | .missing => .ofString "_stub_engine"

/-- Nothing to answer. -/
def nothing : Reply := .value .null

/-- Writes a file, with the directories above it if need be. -/
def putFile (path : Text) (content : Bytes) : Act Unit := do
  let w ← get
  let store ← Act.settle (w.store.makeDirectories? (PathForm.ofText path).parent)
  set { w with store := ← Act.settle (store.write? path content) }

/-- What one step does, with calls of the engine and steps inside calls taken as given. -/
def perform (call : Dispatch.Call) (nested : Scheduler.Nested) : Step → Act Reply
  | .serve operation source => do
    Dispatch.perform call operation (← Act.settle source.form?)
    return nothing
  | .listJobs db => do return .value (.list (← Dispatch.listJobs call db))
  | .cancelJob job db => do
    Dispatch.cancelJob call job db
    return nothing
  | .runScheduler db => do
    Dispatch.runScheduler call db
    return nothing
  | .startScheduler db => do showNew (← Scheduler.start db)
  | .setTempDir directory => do
    modify fun w => { w with service := { w.service with tempDir := directory } }
    return nothing
  | .ask operation source => do
    let form : Except Failure Form ← match source with
      | .payload v => pure (Form.ofPayload? v)
      | .fields entries => do pure (.ok (← Act.settle (Form.ofFields? entries)))
    return .value (← Desk.ask call operation form).toValue
  | .askJobs db => do return .value (← Desk.askJobs call db).toValue
  | .askCancel job db => do return .value (← Desk.askCancel call job db).toValue
  | .askStart db => do return .value (← Desk.askStart db).toValue
  | .askStatus => do return .value (← Desk.askStatus)
  | .saveServerConfig config path => do
    Desk.saveServerConfig config path
    return .bytes (← Act.settle ((← get).store.read? path))
  | .loadServerConfig path => do return .value (← Desk.loadServerConfig path)
  | .saveText path content => do
    Desk.saveText path content
    return .bytes (← Act.settle ((← get).store.read? path))
  | .newHandle db => do showNew (← Scheduler.add (Handle.fresh db none))
  | .startHandle db during outcome => do
    showNew (← Scheduler.add (Handle.fresh db (some (.steps during outcome))))
  | .pump handle => do
    Scheduler.pump nested call (← handleNumber handle)
    return nothing
  | .query handle what => do
    Act.settle (answerQuery (← Scheduler.handle (← handleNumber handle)) what)
  | .cancel handle => do return .value (.bool (← Scheduler.cancel nested (← handleNumber handle)))
  | .beginTask handle => do return .value (.bool (← Scheduler.begin (← handleNumber handle)))
  | .finishTask handle outcome => do
    Scheduler.finish nested (← handleNumber handle) outcome
    return nothing
  | .listen handle name during failure => do
    Scheduler.listen nested (← handleNumber handle) ⟨name, during, failure⟩
    return nothing
  | .newTemp directory stem => do
    let t := TempFiles.none directory stem
    addTemp t
    return .value (.text t.display)
  | .writeTemp files content suffix label => do
    return .value (.text (← onTemp files (Drafting.write content suffix label)))
  | .addTemp files path => do
    onTemp files (Drafting.add path)
    return .value (.text path)
  | .releaseTemp files => do
    onTemp files Drafting.release
    return nothing
  | .showTemp files => do
    let t ← onTemp files get
    return .value (.dict [
      (.ofString "paths", .list (t.paths.map .text)), (.ofString "released", .bool t.released),
      (.ofString "len", .int t.paths.length), (.ofString "repr", .text t.display)])
  | .withTemp files body failure => do
    let n := addressed files (← get).made.length
    Act.ensure
      (do
        Act.record (.took "with" (← nested body))
        match failure with
        | some f => throw f
        | none => pure ())
      (onTemp (some n) Drafting.release)
    return .value (.bool true)
  | .prepare source forcePreview directory => do
    let form ← Act.settle source.form?
    let (order, files) ← Preparation.prepare form forcePreview directory
    addTemp files
    let store := (← get).store
    let shown ← Act.settle order.toValue?
    return .prepared shown order.isScheduled files.paths
      (files.paths.map fun path => (store.read? path).toOption)
  | .registerEngine tag => do
    Engine.register (tag.map fun t => .scripted (some t))
    return nothing
  | .getEngine name => do
    let engine ← match name with
      | some n => Engine.named n
      | none => Engine.inUse
    modify fun w => { w with fetched := w.fetched ++ [engine] }
    return .value (engineName engine)
  | .discoverEngines => do
    let catalogue ← Engine.discover
    return .value (.dict (catalogue.map fun (name, engine) => (.text name, engineName engine)))
  | .callEngine engine fields => do
    let w ← get
    match w.fetched[addressed engine w.fetched.length]? with
    | none => throw (.new .indexError "list index out of range")
    | some e => do
      let order ← Act.settle (Order.ofFields? fields)
      return .value (← call e order)
  | .setEntryPoints entryPoints => do
    modify fun w => { w with registry := { w.registry with entryPoints := entryPoints } }
    return nothing
  | .putFile path content => do
    putFile path content
    return nothing
  | .showFile path => do return .bytes (← Act.settle ((← get).store.read? path))
  | .removeFile path => do
    let w ← get
    set { w with store := ← Act.settle (w.store.remove? path) }
    return nothing
  | .listFiles => do return .value (.list ((← get).store.files.map .text))

/-- One step under a number of its own, with its answer. -/
def answer (call : Dispatch.Call) (nested : Scheduler.Nested) (step : Step) : Act Answer := do
  let outer := (← get).current
  let number := (← get).steps
  modify fun w => { w with current := number, steps := number + 1 }
  let outcome ← Act.attempt (perform call nested step)
  modify fun w => { w with current := outer }
  return ⟨number, outcome, (← get).store.files⟩

/-- Steps one after the other, with calls at most `depth` levels deep. -/
def steps : (depth : Nat) → Scheduler.Nested
  | 0, _ => throw tooDeep
  | depth + 1, list => list.mapM (answer (enter (steps depth)) (steps depth))

/-- How deep calls may go. -/
def depthLimit : Nat := 100

/-- A whole session from a world: the answers and the world in the end. -/
def run (list : List Step) (w : World) : Except Failure (List Answer) × World :=
  (steps (depthLimit + 1) list).run.run w

end CampaignDesk.Session
