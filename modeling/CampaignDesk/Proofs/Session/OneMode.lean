import CampaignDesk.Proofs.Sample
import CampaignDesk.Proofs.Session.Hosting
import CampaignDesk.Proofs.Session.Orders

/-!
# Every order of a session

* `Orders.perform_steady`: a quiet step leaves the orders alone. `Orders.hosting`: so does everything else
  that happens beside engine calls, as far as orders are well posed.
* `Orders.pump_asks`: the target of a handle calls an engine once at most.
* `Orders.perform_asks`: **whatever a step does, it comes to one engine call of its own at most.**
* `Orders.steps_keep`: so a session is orderly, at every depth.
* `every_order_in_one_mode`: **every order of a session is well posed.** A step has one order at most,
  and none if it is refused.
-/

namespace CampaignDesk

open Act

namespace Orders

open World Dispatch

variable {w : World} {nested : Scheduler.Nested} {call : Dispatch.Call} {step : Step}

/-! ## Quiet steps -/

theorem steady_elsewhere : Elsewhere Steady :=
  { steady_beside, steady_housekeeping with
    service := fun _ _ => ⟨rfl, rfl, rfl, rfl, rfl⟩
    made := fun _ _ => ⟨rfl, rfl, rfl, rfl, rfl⟩
    fetched := fun _ _ => ⟨rfl, rfl, rfl, rfl, rfl⟩ }

/-- **A quiet step keeps the orders, the numbers of steps and the handles as they are.** -/
theorem perform_steady (h : step.isQuiet = true) (call : Dispatch.Call) :
    Within Steady (Session.perform call nested step) :=
  steady_elsewhere.perform h (fun _ _ _ => ⟨rfl, rfl, rfl, rfl, rfl⟩) call nested

/-! ## Handles and steps inside a step -/

theorem takes_of_serves {target : Target} (h : target.Serves) : target.Takes Step.Serves := by
  cases target <;> exact h

theorem serves_of_takes {target : Target} (h : target.Takes Step.Serves) : target.Serves := by
  cases target <;> exact h

/-- Everything but engine calls keeps the orders of a session. -/
theorem hosting : Hosting Step.Serves Serving Orderly Steady :=
  { attended, steady_elsewhere with
    targets := fun _ n h hw hn t ht => takes_of_serves ((hw.handles n h hn).target t ht)
    joined := fun _ hh => add_keeps ⟨fun t ht => serves_of_takes (hh.target t ht), hh.listeners⟩
    stated := fun w _ _ state hw _ _ => (stated_keeps state w hw).2
    scheduled := fun _ _ => ⟨rfl, rfl, rfl, rfl, rfl⟩ }

section nested

variable (hnested : NestedAgree Step.Serves Serving Orderly nested nested)

include hnested

/-- **The target of a handle calls an engine once at most.** -/
theorem work_asks {target : Target} (h : target.Serves) (hw : w.Serving) :
    AsksOnce Serving Orderly (fun call => Scheduler.work nested call target) w := by
  cases target with
  | scheduler db =>
    exact (runScheduler_asks steady_incidental steady_keeps db hw).bind fun _ => Agree.pure _
  | steps during outcome =>
    have hsteps := (Session.take_agrees steady_beside steady_keeps hnested h "target").bind
      fun _ => Agree.settle outcome
    exact .of_agree hsteps hw

theorem pump_asks (n : Nat) (hw : w.Serving) :
    AsksOnce Serving Orderly (fun call => Scheduler.pump nested call n) w := by
  refine .after (attended.of_within (Session.handle_within n)) (fun h v hh hv => ?_) hw
  have hserves : h.Serves := by
    rw [Scheduler.handle_apply] at hh
    rcases hn : w.handles[n]? with _ | k <;> rw [hn] at hh <;> cases hh
    exact hw.handles n h hn
  rcases htarget : h.target with _ | target
  · exact .of_agree (Agree.throw (.noAttribute .null "run")) hv
  -- the target of a task that was called off is not run
  refine .after (hosting.begin_agrees n) (fun go u _ hu => ?_) hv
  cases go with
  | false => exact .of_agree (Agree.pure ()) hu
  | true =>
    exact (work_asks hnested (hserves.target target htarget) hu).attempt.bind
      fun outcome => hosting.finish_agrees hnested n outcome

/-- **Whatever a step does, it comes to one engine call of its own at most.** -/
theorem perform_asks (hstep : step.Serves) (hw : w.Serving) :
    AsksOnce Serving Orderly (fun call => Session.perform call nested step) w := by
  have hincidental : Incidental Steady := steady_incidental
  have hnumber (handle : Option Nat) := attended.of_within (Session.handleNumber_within handle)
  cases hstep with
  | startHandle db outcome h =>
    have hfresh : (Handle.fresh db (some (.steps _ outcome))).Takes Step.Serves :=
      Handle.takes_fresh fun t ht => by cases ht; exact h
    refine .of_agrees (fun _ _ => ?_) hw
    exact (hosting.joined _ hfresh).bind fun n => hosting.showNew_agrees n
  | listen handle name failure h =>
    refine .of_agrees (fun _ _ => ?_) hw
    exact (hnumber handle).bind fun n =>
      (attended.listen_agrees hnested (l := ⟨name, _, failure⟩) h n).bind fun _ => Agree.pure _
  | withTemp files failure h =>
    exact .of_agrees (fun _ _ => hosting.withTemp_agrees hnested files failure h) hw
  | plain hplain =>
    -- what is left after the quiet steps calls an engine or has to do with a handle
    by_cases hquiet : step.isQuiet = true
    · refine .of_agrees (fun call call' => ?_) hw
      rw [Session.perform_quiet hquiet call' call]
      exact attended.of_within (perform_steady hquiet call)
    cases step with
    | serve operation source =>
      exact .after (Agree.settle source.form?) (fun form _ _ hv =>
        (Dispatch.perform_asks hincidental steady_keeps steady_housekeeping operation form hv).bind
          fun _ => Agree.pure _) hw
    | listJobs db =>
      exact (listJobs_asks hincidental steady_keeps db hw).bind fun _ => Agree.pure _
    | cancelJob job db =>
      exact (cancelJob_asks hincidental steady_keeps job db hw).bind fun _ => Agree.pure _
    | runScheduler db =>
      exact (runScheduler_asks hincidental steady_keeps db hw).bind fun _ => Agree.pure _
    | startScheduler db =>
      refine .of_agrees (fun _ _ => ?_) hw
      exact (hosting.start_agrees db).bind fun n => hosting.showNew_agrees n
    | ask operation source =>
      have hask (form : Except Failure Form) {v : World} (hv : v.Serving) :=
        (ask_asks hincidental steady_keeps steady_housekeeping operation form hv).bind
          fun o => Agree.pure (Reply.value o.toValue)
      cases source with
      | payload v => exact hask _ hw
      | fields entries =>
        exact .after (Agree.settle _) (fun form _ _ hv => hask (.ok form) hv) hw
    | askJobs db => exact (askJobs_asks hincidental steady_keeps db hw).bind fun _ => Agree.pure _
    | askCancel job db =>
      exact (askCancel_asks hincidental steady_keeps job db hw).bind fun _ => Agree.pure _
    | askStart db =>
      refine .of_agrees (fun _ _ => ?_) hw
      exact (hosting.askStart_agrees db).bind fun _ => Agree.pure _
    | newHandle db =>
      have hfresh : (Handle.fresh db none).Takes Step.Serves := Handle.takes_fresh nofun
      refine .of_agrees (fun _ _ => ?_) hw
      exact (hosting.joined _ hfresh).bind fun n => hosting.showNew_agrees n
    | pump handle =>
      exact .after (hnumber handle) (fun n _ _ hv =>
        (pump_asks hnested n hv).bind fun _ => Agree.pure _) hw
    | cancel handle =>
      refine .of_agrees (fun _ _ => ?_) hw
      exact (hnumber handle).bind fun n => (hosting.calledOff_agrees hnested n).bind fun _ => Agree.pure _
    | beginTask handle =>
      refine .of_agrees (fun _ _ => ?_) hw
      exact (hnumber handle).bind fun n => (hosting.begin_agrees n).bind fun _ => Agree.pure _
    | finishTask handle outcome =>
      refine .of_agrees (fun _ _ => ?_) hw
      exact (hnumber handle).bind fun n =>
        (hosting.finish_agrees hnested n outcome).bind fun _ => Agree.pure _
    | startHandle | listen | withTemp | callEngine => cases hplain
    | _ => exact absurd rfl hquiet

end nested

/-- **A session is orderly**, at every depth. -/
theorem steps_keep (depth : Nat) :
    NestedAgree Step.Serves Serving Orderly (Session.steps depth) (Session.steps depth) := by
  induction depth with
  | zero => exact fun list _ => Agree.of_eq fun _ => rfl
  | succ depth ih =>
    refine fun list hlist => Agree.mapM fun step hstep => ?_
    rw [Session.answer_eq]
    exact @answering_keeps (Session.steps depth) ih
      (fun call => Session.perform call (Session.steps depth) step) fun _ hw =>
        perform_asks ih (hlist step hstep) hw

/-! ## Refusals -/

/-- An operation comes to no engine call: it ends in one way, whatever engines do, and no order is
recorded. -/
def Unasked {α : Type} (op : Dispatch.Call → Act α) (w : World) : Prop :=
  ∃ ended, (∀ call, op call w = ended) ∧ ended.2.journal.asked = w.journal.asked

/-- What is refused to the service is answered at the desk without a call as well. -/
theorem unasked_invoke {op : Dispatch.Call → Act Unit} (h : Unasked op w) (message : String) :
    Unasked (fun call => Desk.invoke (op call) message) w := by
  obtain ⟨⟨outcome, v⟩, heq, hasked⟩ := h
  have hanswer : Within Steady (Desk.invoke (settle outcome) message) :=
    steady_incidental.invoke (Within.settle outcome) message
  exact ⟨_, fun call => invoke_congr (heq call) message, (hanswer v).asked.trans hasked⟩

variable {operation : Campaign} {form : Form} {job : Value}

/-- An operation on a form that cannot be prepared. -/
theorem perform_unasked {f : Failure} {v : World}
    (h : Preparation.prepare form (.bool (operation = .preview)) w.service.tempDir w = (.error f, v)) :
    Unasked (fun call => perform call operation form) w := by
  have hprepared := steady_housekeeping.prepare form (.bool (operation = .preview))
    w.service.tempDir w
  rw [h] at hprepared
  exact ⟨(.error f, v), perform_unprepared h, hprepared.asked⟩

theorem cancelJob_unasked (h : Defaults.isBlank? job ≠ .ok false) (db : Value) :
    Unasked (fun call => cancelJob call job db) w := by
  obtain ⟨f, hrefused⟩ := cancelJob_unnamed h db w
  exact ⟨(.error f, w), hrefused, rfl⟩

end Orders

/-- **Every request to an engine is in exactly one mode.** Take a session of any steps at which nobody
but the service calls engines, and engines, targets and listeners that take such steps themselves, to
any depth. Then

* every order recorded in the session is well posed, and during each step one was recorded at most;
* whatever engines do, a step of such a session comes to one engine call of its own at most;
* an operation whose form fails a check or to be written comes to none, and neither does an attempt to
  cancel a job without a name, be it made to the service or at the desk. -/
theorem every_order_in_one_mode (depth : Nat) {list : List Step}
    (hlist : ∀ step ∈ list, step.Serves) {w : World} (hw : w.Serving) :
    w.Orderly (Session.steps depth list w).2 ∧
    (∀ (step : Step) (u : World), step.Serves → u.Serving → Dispatch.AsksOnce World.Serving
      World.Orderly (fun call => Session.perform call (Session.steps depth) step) u) ∧
    (∀ (operation : Campaign) (form : Form) (u v : World) (f : Failure),
      Preparation.prepare form (.bool (operation = .preview)) u.service.tempDir u = (.error f, v) →
      Orders.Unasked (fun call => Dispatch.perform call operation form) u ∧
        Orders.Unasked (fun call => Desk.ask call operation (.ok form)) u) ∧
    ∀ (job db : Value) (u : World), Defaults.isBlank? job ≠ .ok false →
      Orders.Unasked (fun call => Dispatch.cancelJob call job db) u ∧
        Orders.Unasked (fun call => Desk.askCancel call job db) u := by
  have hkept := Orders.steps_keep depth
  refine ⟨(hkept list hlist w hw).2.2, fun step u hstep hu => Orders.perform_asks hkept hstep hu,
    fun operation form u v f hfails => ?_, fun job db u hjob => ?_⟩
  · have hnone := Orders.perform_unasked hfails
    exact ⟨hnone, Orders.unasked_invoke hnone _⟩
  · have hnone : Orders.Unasked (fun call => Dispatch.cancelJob call job db) u :=
      Orders.cancelJob_unasked hjob db
    exact ⟨hnone, Orders.unasked_invoke hnone _⟩

/-- An engine lists the jobs while it runs a campaign. Then a job is cancelled, an attempt to cancel one
without a name is refused, and the scheduler runs in the background. A form without anything is
refused. -/
theorem every_order_in_one_mode_sample :
    let action : Action := ⟨false, some [.listJobs .null], .ok .null⟩
    let w := { Sample.world with script := ⟨[action, ⟨false, none, .ok .null⟩], 0⟩ }
    let payload : Value := .dict [(.ofString "envPath", .ofString "mail.json")]
    let list : List Step := [.serve .run (.payload payload), .cancelJob (.ofString "7") .null,
      .cancelJob (.ofString " ") .null, .startScheduler .null, .pump none]
    let v := (Session.steps 3 list w).2
    w.Orderly v ∧ v.journal.asked.map Prod.fst = [1, 2, 3, 6] ∧
      Orders.Unasked (fun call => Dispatch.cancelJob call (.ofString " ") .null) w ∧
      Orders.Unasked (fun call => Dispatch.perform call .run Form.blank) w := by
  intro action w payload list v
  have hlist : ∀ step ∈ list, step.Serves := by
    simp only [list, List.forall_mem_cons, List.not_mem_nil]
    exact ⟨.plain rfl, .plain rfl, .plain rfl, .plain rfl, .plain rfl, nofun⟩
  have hscript : ∀ a ∈ w.script.actions, Taking Step.Serves a.during := by
    refine List.forall_mem_cons.2 ⟨?_, List.forall_mem_singleton.2 nofun⟩
    rintro steps ⟨⟩
    exact List.forall_mem_singleton.2 (.plain rfl)
  have hhandles (n : Nat) (h : Handle) (hn : w.handles[n]? = some h) : h.Serves := by
    cases hn
  obtain ⟨horderly, -, hforms, hjobs⟩ := every_order_in_one_mode 3 hlist ⟨hhandles, hscript⟩
  have hblank : Defaults.isBlank? (.ofString " ") ≠ .ok false := by
    rw [show Defaults.isBlank? (.ofString " ") = .ok true from rfl]
    exact nofun
  have hfails : (Preparation.prepare Form.blank (.bool false) .null w).1.isOk = false := by
    decide +kernel
  rcases hprepare : Preparation.prepare Form.blank (.bool false) .null w with ⟨f | made, u⟩ <;>
    rw [hprepare] at hfails
  · exact ⟨horderly, by decide +kernel, (hjobs _ .null w hblank).1,
      (hforms .run Form.blank w u f hprepare).1⟩
  · cases hfails

end CampaignDesk
