import CampaignDesk.World

/-!
# Finding an engine

The engine in use is the one that was registered, or else is settled on at the first request: the
announced engine with the least name, or the missing one. It stays until another is registered.

* `Engine.discover`: the announced engines.
* `Engine.inUse`: the engine in use.
* `Engine.named`: the announced engine with a name, whatever is in use.
* `Engine.register`: puts an engine in use, or has the next request settle on one.
-/

namespace CampaignDesk.Engine

/-- The logger of the search for engines. -/
def logger : String := "mailgrid_ui.engine"

/-- The announced engines; what is passed over is logged. -/
def discover : Act Registry.Catalogue := do
  let survey := (← get).registry.survey
  survey.skipped.forM fun (name, f) =>
    Act.log .warning logger
      (("Skipping engine " : Text) ++ name ++ (": " : Text) ++ f.message)
  Act.settle survey.found

/-- Puts an engine in use, or none for now. -/
def register (engine : Option EngineRef) : Act Unit :=
  modify fun w => { w with registry := { w.registry with current := engine } }

/-- The engine in use, settled on if need be. -/
def inUse : Act EngineRef := do
  match (← get).registry.current with
  | some engine => return engine
  | none =>
    match Registry.first? (← discover) with
    | some (name, engine) =>
      Act.log .debug logger (("Using execution engine: " : Text) ++ name)
      register (some engine)
      return engine
    | none =>
      register (some .missing)
      return .missing

/-- The announced engine with a name. -/
def named (name : Text) : Act EngineRef := do
  match Registry.find? (← discover) name with
  | some engine => return engine
  | none => throw (.valueError (("Unknown engine: " : Text) ++ name))

/-- What the missing engine says to every call. -/
def notInstalled : Failure :=
  .new .engineMissing
    ("No execution engine installed. Install a package exposing a 'mailgrid_ui.engines' " ++
      "entrypoint or call register_engine()." : String)

end CampaignDesk.Engine
