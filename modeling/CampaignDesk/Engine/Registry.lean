import CampaignDesk.Failure.Basic

/-!
# Engines

Which engines can be called, and which one is in use. Engines are announced by entry points under a
group; loading an entry point gives an engine, a value that is none, or a failure.

* `EngineRef`: an engine that can be called.
* `EntryPoint`: an announcement.
* `Registry`: the engine in use and the announcements.
* `Registry.survey`: the engines of the group, with what was passed over on the way.
-/

namespace CampaignDesk

/-- An engine: one that follows a script, perhaps under a name, or the one that is called when
none is installed. -/
inductive EngineRef
  | scripted (tag : Option Text)
  | missing
deriving DecidableEq

/-- What loading an entry point gives: an engine, which is the scripted one under the name of the entry
point unless it is told, a failure, or a value that cannot be called. -/
inductive Loaded
  | engine (engine : Option EngineRef := none)
  | failure (f : Failure)
  | value (v : Value)

/-- An announced engine. -/
structure EntryPoint where
  name : Text
  group : Text
  loaded : Loaded

/-- The engine in use, if one has been settled on, and all announcements. -/
structure Registry where
  current : Option EngineRef
  entryPoints : List EntryPoint

namespace Registry

/-- The group that engines are announced under. -/
def group : Text := "mailgrid_ui.engines"

/-- Engines by name, in the order in which the names first came. -/
abbrev Catalogue := List (Text × EngineRef)

/-- Gives a name its engine: at its old place if it has one, else at the end. -/
def enlist (catalogue : Catalogue) (name : Text) (engine : EngineRef) : Catalogue :=
  match catalogue with
  | [] => [(name, engine)]
  | (n, e) :: rest => if n = name then (n, engine) :: rest else (n, e) :: enlist rest name engine

/-- What came of looking through the announcements: the engines, or the failure that stopped the
search, and before that the entry points that were passed over for want of a module. -/
structure Survey where
  skipped : List (Text × Failure)
  found : Except Failure Catalogue

/-- Looks through announcements of the group, with the engines found so far. -/
def surveyFrom (catalogue : Catalogue) : List EntryPoint → Survey
  | [] => ⟨[], .ok catalogue⟩
  | p :: rest =>
    match p.loaded with
    | .engine e => surveyFrom (enlist catalogue p.name (e.getD (.scripted (some p.name)))) rest
    | .value _ => surveyFrom catalogue rest
    | .failure f =>
      if f.kind.isA .importError then
        let after := surveyFrom catalogue rest
        { after with skipped := (p.name, f) :: after.skipped }
      else ⟨[], .error f⟩

/-- The engines that are announced. -/
def survey (r : Registry) : Survey :=
  surveyFrom [] (r.entryPoints.filter fun p => p.group = group)

/-- The least of some names. -/
def least? : List Text → Option Text
  | [] => none
  | n :: rest =>
    match least? rest with
    | none => some n
    | some m => some (if Text.isBefore m n then m else n)

/-- The engine with a name. -/
def find? (catalogue : Catalogue) (name : Text) : Option EngineRef :=
  (catalogue.find? fun e => e.1 = name).map (·.2)

/-- The engine to use when none was registered: the one with the least name. -/
def first? (catalogue : Catalogue) : Option (Text × EngineRef) := do
  let name ← least? (catalogue.map (·.1))
  return (name, ← find? catalogue name)

end Registry

end CampaignDesk
