import CampaignDesk.Session.Run
import CampaignDesk.Proofs.Dispatch.Call
import CampaignDesk.Proofs.Scheduler.Handle

/-!
# Steps inside steps

What engines, targets and listeners do is to take steps, so that a property of steps of some kind is
shown by induction on the depth of calls. Here is what such proofs have in common.

* `Taking`: all steps inside a call are of some kind.
* `Beside`, `Aside`: relations that are kept by everything but a handle, a listener or the desk, and by
  everything but one of these and an engine call.
* `enter_agrees`, `answer_agrees`: **an engine call and the answering of a step do the same as others,
  and keep the same properties, if the steps inside do.**
* `Attended`: the same for what listeners are told, if a handle may change apart from its task.
-/

namespace CampaignDesk

open Act

/-- The steps taken inside a call are all of one kind. -/
def Taking (kind : Step → Prop) (during : Option (List Step)) : Prop :=
  ∀ steps, during = some steps → ∀ s ∈ steps, kind s

/-- Two ways of taking steps inside a call agree for steps of one kind. -/
def NestedAgree (kind : Step → Prop) (P : World → Prop) (R : World → World → Prop)
    (nested nested' : Scheduler.Nested) : Prop :=
  ∀ list, (∀ s ∈ list, kind s) → Agree P R (nested list) (nested' list)

theorem NestedAgree.self {kind : Step → Prop} {P : World → Prop} {R : World → World → Prop}
    {nested nested' : Scheduler.Nested} (h : NestedAgree kind P R nested nested') :
    NestedAgree kind P R nested nested :=
  fun list hlist w hw => ⟨rfl, (h list hlist w hw).2⟩

/-- Worlds may change along `S` by what happens beside handles, listeners, engine calls and the desk:
a script counts, a file changes, the answers of steps taken inside a call are recorded. -/
structure Beside (S : World → World → Prop) : Prop extends Dispatch.Remarking S where
  during : ∀ answers, Within S (record (.during answers))
  took : ∀ who answers, Within S (record (.took who answers))
  counted : ∀ (w : World) calls, S w { w with script := { w.script with calls := calls } }
  stored : ∀ (w : World) store, S w { w with store := store }

/-- Worlds may change along `S` by what happens beside handles, listeners and the desk: besides the
above, an engine call is recorded and steps are numbered. -/
structure Aside (S : World → World → Prop) : Prop extends Beside S where
  call : ∀ c, Within S (record (.call c))
  numbered : ∀ (w : World) current steps, S w { w with current := current, steps := steps }

namespace Session

variable {kind : Step → Prop} {P : World → Prop} {R S : World → World → Prop}
  {nested nested' : Scheduler.Nested}

/-- As `answer`, for any operation. -/
def answering (act : Act Reply) : Act Answer := do
  let outer := (← get).current
  let number := (← get).steps
  modify fun w => { w with current := number, steps := number + 1 }
  let outcome ← attempt act
  modify fun w => { w with current := outer }
  return ⟨number, outcome, (← get).store.files⟩

theorem answer_eq (call : Dispatch.Call) (nested : Scheduler.Nested) (step : Step) :
    answer call nested step = answering (perform call nested step) := rfl

theorem handle_within [Std.Refl S] (n : Nat) : Within S (Scheduler.handle n) := by
  refine Within.of_eq fun w => ?_
  simp only [Scheduler.handle, bind_apply, get_apply]
  rcases w.handles[n]? with _ | h <;> rfl

theorem handleNumber_within [Std.Refl S] (number : Option Nat) : Within S (handleNumber number) :=
  Within.of_eq fun _ => rfl

/-- To ask how the scheduler stands changes nothing. -/
theorem askStatus_within [Std.Refl S] [Trans S S S] : Within S Desk.askStatus := by
  refine Within.get.bind fun w => ?_
  split
  · exact Within.pure _
  · refine (handle_within _).bind fun h => ?_
    split <;> exact Within.pure _

theorem excuse_within [Std.Refl S] (hS : Beside S) (outcome : Except Failure Unit) :
    Within S (Scheduler.excuse outcome) := by
  unfold Scheduler.excuse
  split
  · exact Within.pure _
  · split
    · exact hS.remark _ rfl
    · exact Within.throw _

theorem logEnd_within (hS : Beside S) (h : Handle) : Within S (Scheduler.logEnd h) := by
  unfold Scheduler.logEnd
  split <;> exact hS.remark _ rfl

/-- The next action is one of the script, unless that has none. -/
theorem nextAction_cases (script : Script) :
    nextAction script = ⟨false, none, .ok .null⟩ ∨ nextAction script ∈ script.actions := by
  unfold nextAction
  rcases hnext : script.actions[script.calls]?.or script.actions.getLast? with _ | a
  · exact .inl rfl
  · refine .inr ?_
    rcases Option.or_eq_some_iff.1 hnext with hnth | ⟨-, hlast⟩
    · exact List.mem_of_getElem? hnth
    · exact List.mem_of_getLast? hlast

theorem nextAction_taking {script : Script} (h : ∀ a ∈ script.actions, Taking kind a.during) :
    Taking kind (nextAction script).during := by
  rcases nextAction_cases script with hnone | hmem
  · rw [hnone]
    exact nofun
  · exact h _ hmem

variable [Std.Refl R] [Trans R R R]

/-- A run of the scheduler is one call of the engine. -/
theorem runScheduler_agrees [Std.Refl S] [Trans S S S] (hS : Dispatch.Incidental S)
    (hkeep : ∀ w v, S w v → P w → P v ∧ R w v) {call call' : Dispatch.Call}
    (hcall : ∀ e db, Agree P R (call e (Dispatch.schedulerOrder db))
      (call' e (Dispatch.schedulerOrder db))) (db : Value) :
    Agree P R (Dispatch.runScheduler call db) (Dispatch.runScheduler call' db) := by
  refine Agree.bind (Agree.settle _) fun d => Agree.bind ?_ fun _ => Agree.pure _
  exact Dispatch.callEngine_agrees hS hkeep (fun e => hcall e d) "scheduler"

section beside

variable (hS : Beside S) (hkeep : ∀ w v, S w v → P w → P v ∧ R w v)

include hS hkeep

theorem take_agrees (hnested : NestedAgree kind P R nested nested')
    {during : Option (List Step)} (hduring : Taking kind during) (who : Text) :
    Agree P R (Scheduler.take nested who during) (Scheduler.take nested' who during) := by
  cases during with
  | none => exact Agree.pure _
  | some steps =>
    exact (hnested steps (hduring steps rfl)).bind fun _ => Agree.of_within (hS.took _ _) hkeep

theorem respond_agrees (hnested : NestedAgree kind P R nested nested') {l : Listener}
    (hl : Taking kind l.during) :
    Agree P R (Scheduler.respond nested l) (Scheduler.respond nested' l) := by
  refine (take_agrees hS hkeep hnested hl l.name).bind fun _ => ?_
  cases l.failure with
  | none => exact Agree.pure _
  | some f => exact Agree.of_eq fun _ => rfl

theorem enact_agrees (hnested : NestedAgree kind P R nested nested') (files : List Text)
    {action : Action} (haction : Taking kind action.during) :
    Agree P R (enact nested files action) (enact nested' files action) := by
  have hend : Agree P R (settle action.outcome) (settle action.outcome) := Agree.settle _
  have hremoved : Agree P R (modify fun w => { w with store := removeAll w.store files } : Act PUnit)
      (modify _) := Agree.of_within (fun w => hS.stored w _) hkeep
  unfold enact
  cases hduring : action.during with
  | none =>
    cases action.deleteFiles with
    | true => exact hremoved.bind fun _ => hend
    | false => exact hend
  | some steps =>
    have hsteps := (hnested steps (haction steps hduring)).bind fun answers =>
      (Agree.of_within (hS.during answers) hkeep).bind fun _ => hend
    cases action.deleteFiles with
    | true => exact hremoved.bind fun _ => hsteps
    | false => exact hsteps

end beside

section aside

variable (hS : Aside S) (hkeep : ∀ w v, S w v → P w → P v ∧ R w v)

include hS hkeep

theorem enter_agrees (hscript : ∀ w, P w → ∀ a ∈ w.script.actions, Taking kind a.during)
    (hnested : NestedAgree kind P R nested nested') (e : EngineRef) (order : Order) :
    Agree P R (enter nested e order) (enter nested' e order) := by
  cases e with
  | missing => exact Agree.of_eq fun _ => rfl
  | scripted tag =>
    intro w hw
    -- the script counts the call before anything else happens
    obtain ⟨hcounted, hR⟩ := hkeep w _ (hS.counted w (w.script.calls + 1)) hw
    have hrecord : Agree P R (record (.call ⟨order, filesOf w.store order, tag⟩)) (record _) :=
      Agree.of_within (hS.call _) hkeep
    have henact := enact_agrees hS.toBeside hkeep hnested ((filesOf w.store order).map (·.1))
      (nextAction_taking (hscript w hw))
    obtain ⟨heq, hP, hR'⟩ := hrecord.bind (fun _ => henact) _ hcounted
    exact ⟨heq, hP, Trans.trans hR hR'⟩

/-- What is answered is what an operation does. -/
theorem answering_agrees {act act' : Act Reply} (hact : Agree P R act act') :
    Agree P R (answering act) (answering act') := by
  refine Agree.bind (Agree.of_eq fun _ => rfl) fun v => ?_
  refine Agree.bind (Agree.of_eq fun _ => rfl) fun v' => ?_
  refine Agree.bind (Agree.of_within (fun w => hS.numbered w _ _) hkeep) fun _ => ?_
  refine Agree.bind hact.attempt fun outcome => ?_
  refine Agree.bind (Agree.of_within (fun w => hS.numbered w _ _) hkeep) fun _ => ?_
  exact Agree.bind (Agree.of_eq fun _ => rfl) fun _ => Agree.pure _

/-- A step is answered as it is performed. -/
theorem answer_agrees {call call' : Dispatch.Call} {step : Step}
    (hstep : Agree P R (perform call nested step) (perform call' nested' step)) :
    Agree P R (answer call nested step) (answer call' nested' step) :=
  answering_agrees hS hkeep hstep

end aside

end Session

/-! ## Listeners -/

/-- A change of a handle apart from its task. -/
structure Handle.Apart (g : Handle → Handle) : Prop where
  db : ∀ h, (g h).db = h.db
  state : ∀ h, (g h).state = h.state
  target : ∀ h, (g h).target = h.target

/-- Wherever `P` holds listeners take steps of one kind. To add and to tell listeners, and to change
a handle apart from its task, keeps `P` and moves along `R`. -/
structure Attended (kind : Step → Prop) (P : World → Prop) (R S : World → World → Prop) : Prop
    extends Beside S where
  added : ∀ who, Within S (record (.added who))
  told : ∀ who status, Within S (record (.told who status))
  keeps : ∀ w v, S w v → P w → P v ∧ R w v
  listeners : ∀ (w : World) (n : Nat) (h : Handle), P w → w.handles[n]? = some h →
    ∀ l ∈ h.listeners, Taking kind l.during
  update : ∀ n g, Handle.Apart g →
    (∀ h : Handle, (∀ l ∈ h.listeners, Taking kind l.during) →
      ∀ l ∈ (g h).listeners, Taking kind l.during) →
    Agree P R (Scheduler.update n g) (Scheduler.update n g)

namespace Attended

variable {kind : Step → Prop} {P : World → Prop} {R S : World → World → Prop}
  {nested nested' : Scheduler.Nested} {l : Listener} [Std.Refl S] [Std.Refl R] [Trans R R R]
  (hA : Attended kind P R S)

include hA

omit [Std.Refl S] [Std.Refl R] [Trans R R R] in
/-- What moves along `S` keeps `P`. -/
theorem of_within {α : Type} {act : Act α} (h : Within S act) : Agree P R act act :=
  Agree.of_within h hA.keeps

theorem tell_agrees (hnested : NestedAgree kind P R nested nested') (hl : Taking kind l.during)
    (n : Nat) : Agree P R (Scheduler.tell nested n l) (Scheduler.tell nested' n l) := by
  have hrespond := Session.respond_agrees hA.toBeside hA.keeps hnested hl
  have hreact : Agree P R (Scheduler.react nested n l) (Scheduler.react nested' n l) :=
    Agree.bind (hA.of_within (Session.handle_within n)) fun _ =>
      (hA.of_within (hA.told _ _)).bind fun _ => hrespond
  exact hreact.attempt.bind fun outcome =>
    hA.of_within (Session.excuse_within hA.toBeside outcome)

theorem inform_agrees (hnested : NestedAgree kind P R nested nested') (n : Nat) :
    Agree P R (Scheduler.inform nested n) (Scheduler.inform nested' n) := by
  intro w hw
  rcases hn : w.handles[n]? with _ | h
  · have herror := Scheduler.handle_error hn
    unfold Scheduler.inform
    rw [bind_error herror, bind_error herror]
    exact ⟨rfl, hw, Std.Refl.refl w⟩
  have hok := Scheduler.handle_ok hn
  unfold Scheduler.inform
  rw [bind_ok hok, bind_ok hok]
  refine Agree.bind (hA.of_within (Session.logEnd_within hA.toBeside h)) (fun _ => ?_) w hw
  refine Agree.bind
    (hA.update n _ ⟨fun _ => rfl, fun _ => rfl, fun _ => rfl⟩ fun _ _ => List.forall_mem_nil _)
    fun _ => ?_
  exact Agree.forM fun l hl => hA.tell_agrees hnested (hA.listeners w n h hw hn l hl) n

/-- Calling a task off agrees if a task that waits may be called off. -/
theorem cancel_agrees (hnested : NestedAgree kind P R nested nested')
    (hcalledOff : ∀ (w : World) (n : Nat) (h : Handle), P w → w.handles[n]? = some h →
      h.state = .waiting → P (Scheduler.stated w n (.cancelled false)) ∧
        R w (Scheduler.stated w n (.cancelled false)))
    (n : Nat) : Agree P R (Scheduler.cancel nested n) (Scheduler.cancel nested' n) := by
  intro w hw
  rcases hn : w.handles[n]? with _ | h
  · have herror := Scheduler.handle_error hn
    unfold Scheduler.cancel
    rw [bind_error herror, bind_error herror]
    exact ⟨rfl, hw, Std.Refl.refl w⟩
  rw [Scheduler.cancel_apply nested hn, Scheduler.cancel_apply nested' hn]
  cases hstate : h.state with
  | waiting =>
    obtain ⟨hP, hR⟩ := hcalledOff w n h hw hn hstate
    obtain ⟨heq, hP', hR'⟩ :=
      ((hA.inform_agrees hnested n).bind fun _ => Agree.pure true) _ hP
    exact ⟨heq, hP', Trans.trans hR hR'⟩
  | running | cancelled | finished => exact ⟨rfl, hw, Std.Refl.refl w⟩

theorem listen_agrees (hnested : NestedAgree kind P R nested nested') (hl : Taking kind l.during)
    (n : Nat) : Agree P R (Scheduler.listen nested n l) (Scheduler.listen nested' n l) := by
  refine Agree.bind (hA.of_within (Session.handle_within n)) fun h => ?_
  refine Agree.bind (hA.of_within (hA.added _)) fun _ => ?_
  split
  · exact hA.tell_agrees hnested hl n
  · refine hA.update n _ ⟨fun _ => rfl, fun _ => rfl, fun _ => rfl⟩ fun k hk m hm => ?_
    rcases List.mem_append.1 hm with hm | hm
    · exact hk m hm
    · cases List.mem_singleton.1 hm
      exact hl

end Attended

end CampaignDesk
