import CampaignDesk.Proofs.Order.Preparation
import CampaignDesk.Proofs.Session.Nested

/-!
# Quiet steps

* `Step.isQuiet`: the steps that neither call engines nor have to do with handles.
* `Elsewhere`: relations that are kept by everything but engine calls, handles, and what is announced.
* `Elsewhere.perform`: **a quiet step moves worlds along every such relation.**
-/

namespace CampaignDesk

open Act

/-- A step that changes files, settings and engines at most. -/
def Step.isQuiet : Step → Bool
  | .setTempDir .. | .askStatus | .saveServerConfig .. | .loadServerConfig .. | .saveText ..
  | .query .. | .newTemp .. | .writeTemp .. | .addTemp .. | .releaseTemp .. | .showTemp ..
  | .prepare .. | .registerEngine .. | .getEngine .. | .discoverEngines | .setEntryPoints ..
  | .putFile .. | .showFile .. | .removeFile .. | .listFiles => true
  | _ => false

/-- A quiet step has no use for engines. -/
theorem Session.perform_quiet {step : Step} (h : step.isQuiet = true) {nested : Scheduler.Nested}
    (call call' : Dispatch.Call) :
    Session.perform call nested step = Session.perform call' nested step := by
  cases step with
  | serve | listJobs | cancelJob | runScheduler | startScheduler | ask | askJobs | askCancel
  | askStart | newHandle | startHandle | pump | cancel | beginTask | finishTask | listen | withTemp
  | callEngine => cases h
  | _ => rfl

/-- Worlds may change along `S` by what happens beside handles, listeners, engine calls and the desk, by
temporary files, and by what a session keeps at hand: the directory of the service, sets of temporary
files, engines. -/
structure Elsewhere (S : World → World → Prop) : Prop extends Beside S, Housekeeping S where
  service : ∀ (w : World) service, S w { w with service := service }
  made : ∀ (w : World) made, S w { w with made := made }
  fetched : ∀ (w : World) fetched, S w { w with fetched := fetched }

namespace Elsewhere

variable {S : World → World → Prop} [Std.Refl S] [Trans S S S] (hS : Elsewhere S)

include hS

omit [Std.Refl S] [Trans S S S] in
theorem writeText (path text : Text) : Within S (Desk.writeText path text) :=
  fun w => hS.stored w _

omit hS in
/-- To read a file changes nothing. -/
theorem readFile (path : Text) :
    Within S (do return Reply.bytes (← settle ((← get).store.read? path)) : Act Reply) :=
  Within.get.bind fun _ => (Within.settle _).bind fun _ => Within.pure _

theorem onTemp {α : Type} (number : Option Nat) {drafting : Drafting α}
    (h : Drafting.Along S drafting) : Within S (Session.onTemp number drafting) := by
  refine Within.get.bind fun w => ?_
  dsimp only
  split
  · exact Within.throw _
  · rename_i t _
    refine Within.bind (fun v => h t v) fun _ => ?_
    exact Within.bind (fun v => hS.made v _) fun _ => Within.settle _

/-- **A quiet step moves worlds along `S`**, if what it announces does. -/
theorem perform {step : Step} (h : step.isQuiet = true)
    (hannounces : ∀ entryPoints, step = .setEntryPoints entryPoints → ∀ w : World,
      S w { w with registry := { w.registry with entryPoints := entryPoints } })
    (call : Dispatch.Call) (nested : Scheduler.Nested) : Within S (Session.perform call nested step) := by
  cases step with
  | setTempDir directory => exact fun w => hS.service w _
  | newTemp directory stem => exact fun w => hS.made w _
  | setEntryPoints entryPoints => exact hannounces entryPoints rfl
  | askStatus => exact Session.askStatus_within.bind fun _ => Within.pure _
  | saveServerConfig config path =>
    refine Within.bind (Within.get.bind fun _ => (Within.settle _).bind fun text => ?_)
      fun _ => readFile path
    exact hS.writeText path text
  | loadServerConfig path =>
    refine Within.bind (Within.get.bind fun _ => (Within.settle _).bind fun v => ?_)
      fun _ => Within.pure _
    cases v with
    | dict => exact Within.pure _
    | _ => exact Within.throw _
  | saveText path content =>
    refine Within.bind ?_ fun _ => readFile path
    cases content with
    | text t => exact hS.writeText path t
    | _ => exact Within.throw _
  | query handle what =>
    exact (Session.handleNumber_within handle).bind fun n =>
      (Session.handle_within n).bind fun _ => Within.settle _
  | writeTemp files content suffix label =>
    exact (hS.onTemp files (hS.write content suffix label)).bind fun _ => Within.pure _
  | addTemp files path =>
    exact (hS.onTemp files fun _ v => Std.Refl.refl v).bind fun _ => Within.pure _
  | releaseTemp files => exact (hS.onTemp files hS.releasing).bind fun _ => Within.pure _
  | showTemp files =>
    exact (hS.onTemp files fun _ v => Std.Refl.refl v).bind fun _ => Within.pure _
  | prepare source forcePreview directory =>
    refine (Within.settle _).bind fun form => ?_
    refine (hS.prepare form forcePreview directory).bind fun (order, files) => ?_
    refine Within.bind (fun w => hS.made w _) fun _ => Within.get.bind fun _ => ?_
    exact (Within.settle _).bind fun _ => Within.pure _
  | registerEngine tag => exact (hS.register _).bind fun _ => Within.pure _
  | getEngine name =>
    have hfetch (e : EngineRef) : Within S (do
        modify fun w => { w with fetched := w.fetched ++ [e] }
        return Reply.value (Session.engineName e) : Act Reply) := fun w => hS.fetched w _
    cases name with
    | none => exact hS.inUse.bind hfetch
    | some n =>
      refine Within.bind (hS.discover.bind fun catalogue => ?_) hfetch
      split
      · exact Within.pure _
      · exact Within.throw _
  | discoverEngines => exact hS.discover.bind fun _ => Within.pure _
  | putFile path content =>
    refine Within.bind (fun w => ?_) fun _ => Within.pure _
    simp only [Session.putFile, bind_apply, get_apply, settle_apply]
    rcases w.store.makeDirectories? (PathForm.ofText path).parent with f | store
    · exact Std.Refl.refl w
    simp only
    rcases store.write? path content with f | store
    · exact Std.Refl.refl w
    · exact hS.stored w _
  | showFile path => exact readFile path
  | removeFile path =>
    intro w
    simp only [Session.perform, bind_apply, get_apply, settle_apply]
    rcases w.store.remove? path with f | store
    · exact Std.Refl.refl w
    · exact hS.stored w store
  | listFiles => exact Within.get.bind fun _ => Within.pure _
  | _ => cases h

end Elsewhere

end CampaignDesk
