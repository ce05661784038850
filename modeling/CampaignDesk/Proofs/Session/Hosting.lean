import CampaignDesk.Proofs.Scheduler.Course
import CampaignDesk.Proofs.Scheduler.Exclusive
import CampaignDesk.Proofs.Session.Quiet

/-!
# What a whole session keeps

* `Step.Inside`: the steps that are taken inside a step. `Step.Throughout`: a step of which something
  holds, and of all steps inside it.
* `Hosting`: what is to be known of a property and of a relation, besides what engine calls do.
* `Hosting.perform_agrees`: **then every step keeps the property and moves along the relation**, if engine
  calls and the steps inside do.
-/

namespace CampaignDesk

open Act

/-! ## Operations without a form -/

namespace Dispatch

variable {P : World → Prop} {R : World → World → Prop} [Std.Refl R] [Trans R R R] {call : Call}
  (hcall : ∀ operation order, Agree P R (callEngine call operation order) (callEngine call operation order))

include hcall

theorem listJobs_agrees (db : Value) : Agree P R (listJobs call db) (listJobs call db) :=
  (Agree.settle _).bind fun _ => (hcall _ _).bind fun _ => Agree.pure _

theorem cancelJob_agrees (job db : Value) :
    Agree P R (cancelJob call job db) (cancelJob call job db) := by
  refine (Agree.settle _).bind fun blank => ?_
  cases blank with
  | true => exact Agree.throw _
  | false => exact (Agree.settle _).bind fun _ => (hcall _ _).bind fun _ => Agree.pure _

theorem runScheduler_agrees (db : Value) :
    Agree P R (runScheduler call db) (runScheduler call db) :=
  (Agree.settle _).bind fun _ => (hcall _ _).bind fun _ => Agree.pure _

end Dispatch

/-! ## Steps inside steps -/

/-- A step is taken inside another: by a target, by a listener, or while temporary files are in use. -/
inductive Step.Inside (s : Step) : Step → Prop
  | startHandle (db : Value) {steps : List Step} (outcome : Except Failure Value) (h : s ∈ steps) :
      Inside s (.startHandle db (some steps) outcome)
  | listen (handle : Option Nat) (name : Text) {steps : List Step} (failure : Option Failure)
      (h : s ∈ steps) : Inside s (.listen handle name (some steps) failure)
  | withTemp (files : Option Nat) {body : List Step} (failure : Option Failure) (h : s ∈ body) :
      Inside s (.withTemp files body failure)

/-- Something holds of a step and of all steps inside it, to any depth. -/
inductive Step.Throughout (p : Step → Prop) : Step → Prop
  | intro {step : Step} (own : p step) (inside : ∀ s, Inside s step → Throughout p s) :
      Throughout p step

theorem Step.Throughout.own {p : Step → Prop} {step : Step} (h : Throughout p step) : p step := by
  cases h with
  | intro own => exact own

theorem Step.Throughout.inside {p : Step → Prop} {step s : Step} (h : Throughout p step)
    (hs : Inside s step) : Throughout p s := by
  cases h with
  | intro _ inside => exact inside s hs

/-- The steps of a target are all of one kind. -/
def Target.Takes (kind : Step → Prop) : Target → Prop
  | .scheduler _ => True
  | .steps during _ => Taking kind during

/-- The steps of the target and of the listeners of a handle are all of one kind. -/
structure Handle.Takes (kind : Step → Prop) (h : Handle) : Prop where
  target : ∀ t, h.target = some t → t.Takes kind
  listeners : ∀ l ∈ h.listeners, Taking kind l.during

theorem Handle.takes_fresh {kind : Step → Prop} {db : Value} {target : Option Target}
    (h : ∀ t, target = some t → t.Takes kind) : (Handle.fresh db target).Takes kind :=
  ⟨h, List.forall_mem_nil _⟩

/-! ## What is kept -/

/-- Wherever `P` holds targets and listeners take steps of one kind. Whatever happens beside engine calls
keeps `P` and moves along `R`: besides the above, a handle joins the others, a task follows its rules, and
the desk has another handle of its own. -/
structure Hosting (kind : Step → Prop) (P : World → Prop) (R S : World → World → Prop) : Prop
    extends Attended kind P R S, Elsewhere S where
  targets : ∀ (w : World) (n : Nat) (h : Handle), P w → w.handles[n]? = some h →
    ∀ t, h.target = some t → t.Takes kind
  joined : ∀ h : Handle, h.Takes kind → Agree P R (Scheduler.add h) (Scheduler.add h)
  stated : ∀ (w : World) (n : Nat) (h : Handle) (state : Task.State), P w → w.handles[n]? = some h →
    h.state.Leads state → P (Scheduler.stated w n state) ∧ R w (Scheduler.stated w n state)
  scheduled : ∀ (w : World) n, S w { w with scheduler := n }

namespace Hosting

variable {kind : Step → Prop} {P : World → Prop} {R S : World → World → Prop} [Std.Refl R]
  {nested : Scheduler.Nested} {call : Dispatch.Call} (hH : Hosting kind P R S)

include hH

/-! ### Handles -/

theorem begin_agrees (n : Nat) : Agree P R (Scheduler.begin n) (Scheduler.begin n) := by
  intro w hw
  refine ⟨rfl, ?_⟩
  rcases hn : w.handles[n]? with _ | h
  · rw [Scheduler.begin, bind_error (Scheduler.handle_error hn)]
    exact ⟨hw, Std.Refl.refl w⟩
  rw [Scheduler.begin_apply hn]
  rcases hbegin : h.state.begin? with f | ⟨state, go⟩
  · exact ⟨hw, Std.Refl.refl w⟩
  · exact hH.stated w n h state hw hn (Task.State.begin?_leads hbegin)

variable [Trans R R R]

/-- A background run of the scheduler joins the others. -/
theorem start_agrees (db : Value) : Agree P R (Scheduler.start db) (Scheduler.start db) := by
  refine (Agree.settle _).bind fun d => (hH.of_within (hH.remark _ rfl)).bind fun _ => ?_
  exact hH.joined _ (Handle.takes_fresh fun t ht => by cases ht; trivial)

theorem askStart_agrees (db : Value) : Agree P R (Desk.askStart db) (Desk.askStart db) := by
  refine Exclusive.askStart_of_launch ((hH.start_agrees db).bind fun n => ?_)
  exact (hH.of_within fun w => hH.scheduled w _).bind fun _ => Agree.pure _

variable (hcall : ∀ operation order, Agree P R (Dispatch.callEngine call operation order)
  (Dispatch.callEngine call operation order)) (hnested : NestedAgree kind P R nested nested)

include hcall hnested in
theorem work_agrees {target : Target} (h : target.Takes kind) :
    Agree P R (Scheduler.work nested call target) (Scheduler.work nested call target) := by
  cases target with
  | scheduler db => exact (Dispatch.runScheduler_agrees hcall db).bind fun _ => Agree.pure _
  | steps during outcome =>
    exact (Session.take_agrees hH.toBeside hH.keeps hnested h "target").bind
      fun _ => Agree.settle outcome

variable [Std.Refl S]

section nested

include hnested

theorem finish_agrees (n : Nat) (outcome : Except Failure Value) :
    Agree P R (Scheduler.finish nested n outcome) (Scheduler.finish nested n outcome) := by
  intro w hw
  refine ⟨rfl, ?_⟩
  rcases hn : w.handles[n]? with _ | h
  · rw [Scheduler.finish, bind_error (Scheduler.handle_error hn)]
    exact ⟨hw, Std.Refl.refl w⟩
  rw [Scheduler.finish_apply nested outcome hn]
  rcases hfinish : h.state.finish? outcome with f | state
  · exact ⟨hw, Std.Refl.refl w⟩
  · obtain ⟨hP, hR⟩ := hH.stated w n h state hw hn (Task.State.finish?_leads hfinish)
    obtain ⟨-, hP', hR'⟩ := hH.inform_agrees hnested n _ hP
    exact ⟨hP', Trans.trans hR hR'⟩

theorem calledOff_agrees (n : Nat) :
    Agree P R (Scheduler.cancel nested n) (Scheduler.cancel nested n) :=
  hH.cancel_agrees hnested (fun w n h hw hn hwaits =>
    hH.stated w n h _ hw hn (hwaits ▸ Task.State.Moves.calledOff.leads)) n

include hcall

/-- The target of a handle runs, unless its task was called off. -/
theorem pump_agrees (n : Nat) :
    Agree P R (Scheduler.pump nested call n) (Scheduler.pump nested call n) := by
  intro w hw
  rcases hn : w.handles[n]? with _ | h
  · rw [Scheduler.pump, bind_error (Scheduler.handle_error hn)]
    exact ⟨rfl, hw, Std.Refl.refl w⟩
  rw [Scheduler.pump, bind_ok (Scheduler.handle_ok hn)]
  rcases htarget : h.target with _ | target
  · exact ⟨rfl, hw, Std.Refl.refl w⟩
  refine (hH.begin_agrees n).bind (fun go => ?_) w hw
  cases go with
  | false => exact Agree.pure _
  | true =>
    exact (hH.work_agrees hcall hnested (hH.targets w n h hw hn target htarget)).attempt.bind
      fun outcome => hH.finish_agrees hnested n outcome

end nested

variable [Trans S S S]

omit [Std.Refl R] [Trans R R R] in
theorem showNew_agrees (n : Nat) : Agree P R (Session.showNew n) (Session.showNew n) :=
  hH.of_within ((Session.handle_within n).bind fun _ => Within.pure _)

/-! ### Operations on forms and at the desk -/

include hcall in
theorem operation_agrees (operation : Campaign) (form : Form) :
    Agree P R (Dispatch.perform call operation form) (Dispatch.perform call operation form) := by
  refine Agree.bind (Agree.of_eq fun _ => rfl) fun u => ?_
  refine (hH.of_within (hH.prepare form _ u.service.tempDir)).bind fun (order, files) => ?_
  exact ((hcall _ order).bind fun _ => Agree.pure _).attempt.bind fun outcome =>
    (hH.of_within (hH.release files)).bind fun _ => Agree.settle outcome

/-- What is asked at the desk does what its operation does. -/
theorem invoke_agrees {act : Act Unit} (hact : Agree P R act act) (message : String) :
    Agree P R (Desk.invoke act message) (Desk.invoke act message) := by
  refine hact.attempt.bind fun outcome => ?_
  cases outcome with
  | error f => exact hH.of_within (hH.outcomeOf f _ _)
  | ok => exact Agree.pure _

section call

include hcall

theorem ask_agrees (operation : Campaign) (form : Except Failure Form) :
    Agree P R (Desk.ask call operation form) (Desk.ask call operation form) :=
  hH.invoke_agrees ((Agree.settle form).bind fun _ => hH.operation_agrees hcall operation _) _

theorem askJobs_agrees (db : Value) :
    Agree P R (Desk.askJobs call db) (Desk.askJobs call db) := by
  refine (Dispatch.listJobs_agrees hcall db).attempt.bind fun outcome => ?_
  cases outcome with
  | error f => exact hH.of_within (hH.outcomeOf f _ _)
  | ok => exact Agree.pure _

end call

/-! ### Steps -/

include hnested in
theorem withTemp_agrees (files : Option Nat) {body : List Step} (failure : Option Failure)
    (h : ∀ s ∈ body, kind s) :
    Agree P R (Session.perform call nested (.withTemp files body failure))
      (Session.perform call nested (.withTemp files body failure)) := by
  have hrelease (n : Nat) : Within S (Session.onTemp (some n) Drafting.release) :=
    hH.onTemp _ hH.releasing
  refine Agree.bind (Agree.of_eq fun _ => rfl) fun u => ?_
  refine Agree.bind ?_ fun _ => Agree.pure _
  -- the files are released however the steps inside end
  refine Agree.bind (Agree.attempt ?_) fun outcome =>
    (hH.of_within (hrelease _)).bind fun _ => Agree.settle _
  refine (hnested body h).bind fun answers => (hH.of_within (hH.took _ _)).bind fun _ => ?_
  cases failure with
  | none => exact Agree.pure _
  | some f => exact Agree.throw f

include hcall hnested in
/-- **Every step keeps `P` and moves along `R`**, if engine calls and the steps inside do. -/
theorem perform_agrees {step : Step} (hinside : ∀ s, Step.Inside s step → kind s)
    (hannounces : ∀ entryPoints, step = .setEntryPoints entryPoints →
      Agree P R (Session.perform call nested step) (Session.perform call nested step))
    (henter : ∀ e order, Agree P R (call e order) (call e order)) :
    Agree P R (Session.perform call nested step) (Session.perform call nested step) := by
  have hnumber (handle : Option Nat) :
      Agree P R (Session.handleNumber handle) (Session.handleNumber handle) :=
    hH.of_within (Session.handleNumber_within handle)
  cases step with
  | serve operation source =>
    exact (Agree.settle _).bind fun form => (hH.operation_agrees hcall operation form).bind
      fun _ => Agree.pure _
  | listJobs db => exact (Dispatch.listJobs_agrees hcall db).bind fun _ => Agree.pure _
  | cancelJob job db => exact (Dispatch.cancelJob_agrees hcall job db).bind fun _ => Agree.pure _
  | runScheduler db => exact (Dispatch.runScheduler_agrees hcall db).bind fun _ => Agree.pure _
  | startScheduler db => exact (hH.start_agrees db).bind fun n => hH.showNew_agrees n
  | ask operation source =>
    cases source with
    | payload v => exact (hH.ask_agrees hcall operation _).bind fun _ => Agree.pure _
    | fields entries =>
      exact (Agree.settle _).bind fun form => (hH.ask_agrees hcall operation (.ok form)).bind
        fun _ => Agree.pure _
  | askJobs db => exact (hH.askJobs_agrees hcall db).bind fun _ => Agree.pure _
  | askCancel job db =>
    exact (hH.invoke_agrees (Dispatch.cancelJob_agrees hcall job db) _).bind fun _ => Agree.pure _
  | askStart db => exact (hH.askStart_agrees db).bind fun _ => Agree.pure _
  | newHandle db =>
    exact (hH.joined (Handle.fresh db none) (Handle.takes_fresh nofun)).bind fun n => hH.showNew_agrees n
  | startHandle db during outcome =>
    refine (hH.joined _ (Handle.takes_fresh fun t ht => ?_)).bind fun n => hH.showNew_agrees n
    cases ht
    rintro steps rfl s hs
    exact hinside s (.startHandle db outcome hs)
  | pump handle =>
    exact (hnumber handle).bind fun n => (hH.pump_agrees hcall hnested n).bind fun _ => Agree.pure _
  | cancel handle =>
    exact (hnumber handle).bind fun n => (hH.calledOff_agrees hnested n).bind fun _ => Agree.pure _
  | beginTask handle =>
    exact (hnumber handle).bind fun n => (hH.begin_agrees n).bind fun _ => Agree.pure _
  | finishTask handle outcome =>
    exact (hnumber handle).bind fun n =>
      (hH.finish_agrees hnested n outcome).bind fun _ => Agree.pure _
  | listen handle name during failure =>
    have htaking : Taking kind during := by
      rintro steps rfl s hs
      exact hinside s (.listen handle name failure hs)
    exact (hnumber handle).bind fun n =>
      (hH.listen_agrees hnested (l := ⟨name, during, failure⟩) htaking n).bind fun _ => Agree.pure _
  | withTemp files body failure =>
    exact hH.withTemp_agrees hnested files failure fun s hs => hinside s (.withTemp files failure hs)
  | callEngine engine fields =>
    refine Agree.bind (Agree.of_eq fun _ => rfl) fun u => ?_
    split
    · exact Agree.throw _
    · exact (Agree.settle _).bind fun order => (henter _ order).bind fun _ => Agree.pure _
  | setEntryPoints entryPoints => exact hannounces entryPoints rfl
  | _ => exact hH.of_within (hH.perform rfl (by rintro _ ⟨⟩) call nested)

end Hosting

end CampaignDesk
