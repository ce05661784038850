import CampaignDesk.Proofs.Dispatch.Call
import CampaignDesk.Proofs.Order.Mode

/-!
# Operations that call an engine once

An operation is handed an engine call and may make use of it. What it does apart from that does not
depend on engines.

* `AsksOnce`: an operation comes to one call at most, with a well posed order, whatever engines do.
  `AsksOnce.after`, `AsksOnce.bind`: what comes before the call and what comes after it.
* `perform_asks`, `listJobs_asks`, `cancelJob_asks`, `runScheduler_asks`: **every operation of the
  service calls an engine once at most**, and so does every operation of the desk.
* `cancelJob_unnamed`: the refusal to cancel a job without a name.
-/

namespace CampaignDesk.Dispatch

open Act

variable {α β : Type} {P : World → Prop} {R S : World → World → Prop} {op : Call → Act α}
  {w : World}

/-- From a world, an operation comes to no engine call, or to one with a well posed order and goes on
from how that call ends. It does so whatever engines do. Before the call and after it the world keeps
`P` and moves along `R`. -/
inductive AsksOnce (P : World → Prop) (R : World → World → Prop) (op : Call → Act α) (w : World) :
    Prop
  | never (ended : Except Failure α × World) (keeps : P ended.2 ∧ R w ended.2)
      (eq : ∀ call, op call w = ended) : AsksOnce P R op w
  | once (e : EngineRef) (order : Order) (v : World)
      (next : Except Failure Value × World → Except Failure α × World)
      (wellPosed : order.WellPosed) (before : P v ∧ R w v)
      (after : ∀ ended, P ended.2 → P (next ended).2 ∧ R ended.2 (next ended).2)
      (eq : ∀ call, op call w = next (call e order v)) : AsksOnce P R op w

/-- Goes on from how an operation has ended. -/
def resume (next : α → Act β) : Except Failure α × World → Except Failure β × World
  | (.ok a, v) => next a v
  | (.error f, v) => (.error f, v)

theorem bind_resume (act : Act α) (next : α → Act β) (w : World) :
    (act >>= next) w = resume next (act w) := bind_apply act next w

namespace AsksOnce

/-- What makes no use of engines calls none. -/
theorem of_agree {act : Act α} (h : Agree P R act act) (hw : P w) : AsksOnce P R (fun _ => act) w :=
  .never (act w) (h w hw).2 fun _ => rfl

/-- What does the same with all engines calls none. -/
theorem of_agrees (h : ∀ call call', Agree P R (op call) (op call')) (hw : P w) : AsksOnce P R op w :=
  -- any engine call will do to say how it ends
  let call : Call := fun _ _ => throw Engine.notInstalled
  .never (op call w) (h call call w hw).2 fun call' => (h call call' w hw).1

/-- The call itself. -/
theorem call [Std.Refl R] {order : Order} (h : order.WellPosed) (e : EngineRef) (hw : P w) :
    AsksOnce P R (fun call => call e order) w :=
  .once e order w id h ⟨hw, Std.Refl.refl w⟩ (fun ended hP => ⟨hP, Std.Refl.refl ended.2⟩) fun _ => rfl

theorem attempt (h : AsksOnce P R op w) : AsksOnce P R (fun call => Act.attempt (op call)) w := by
  cases h with
  | never ended keeps eq =>
    exact .never (.ok ended.1, ended.2) keeps fun call => by rw [attempt_apply, eq]
  | once e order v next wellPosed before after eq =>
    exact .once e order v (fun ended => (.ok (next ended).1, (next ended).2)) wellPosed before after
      fun call => by rw [attempt_apply, eq]

variable [Trans R R R]

/-- An operation that calls no engine may be followed by one that calls an engine once. -/
theorem after {act : Act α} {op : α → Call → Act β} (hact : Agree P R act act)
    (h : ∀ a v, act w = (.ok a, v) → P v → AsksOnce P R (op a) v) (hw : P w) :
    AsksOnce P R (fun call => act >>= fun a => op a call) w := by
  obtain ⟨-, hP, hR⟩ := hact w hw
  rcases hrun : act w with ⟨f | a, v⟩ <;> rw [hrun] at hP hR
  · exact .never (.error f, v) ⟨hP, hR⟩ fun call => bind_error hrun
  cases h a v hrun hP with
  | never ended keeps eq =>
    exact .never ended ⟨keeps.1, Trans.trans hR keeps.2⟩ fun call => by rw [bind_ok hrun, eq]
  | once e order u next wellPosed before after eq =>
    exact .once e order u next wellPosed ⟨before.1, Trans.trans hR before.2⟩ after
      fun call => by rw [bind_ok hrun, eq]

variable [Std.Refl R]

/-- An operation that calls an engine once may be followed by one that calls none. -/
theorem bind (h : AsksOnce P R op w) {next : α → Act β} (h' : ∀ a, Agree P R (next a) (next a)) :
    AsksOnce P R (fun call => op call >>= next) w := by
  -- how an operation goes on depends on nothing but how the one before has ended
  have hresume (ended : Except Failure α × World) (hP : P ended.2) :
      P (resume next ended).2 ∧ R ended.2 (resume next ended).2 := by
    rcases ended with ⟨f | a, v⟩
    · exact ⟨hP, Std.Refl.refl v⟩
    · exact (h' a v hP).2
  cases h with
  | never ended keeps eq =>
    obtain ⟨hP, hR⟩ := hresume ended keeps.1
    exact .never (resume next ended) ⟨hP, Trans.trans keeps.2 hR⟩ fun call => by rw [bind_resume, eq]
  | once e order v go wellPosed before after eq =>
    refine .once e order v (fun ended => resume next (go ended)) wellPosed before
      (fun ended hended => ?_) fun call => by rw [bind_resume, eq]
    obtain ⟨hgo, hR⟩ := after ended hended
    obtain ⟨hP, hR'⟩ := hresume (go ended) hgo
    exact ⟨hP, Trans.trans hR hR'⟩

theorem ensure (h : AsksOnce P R op w) {afterwards : Act Unit} (h' : Agree P R afterwards afterwards) :
    AsksOnce P R (fun call => Act.ensure (op call) afterwards) w :=
  h.attempt.bind fun outcome => h'.bind fun _ => Agree.settle outcome

end AsksOnce

/-! ## The operations of the service -/

section operations

variable [Std.Refl R] [Trans R R R] [Std.Refl S] [Trans S S S] (hS : Incidental S)
  (hkeep : ∀ w v, S w v → P w → P v ∧ R w v)

include hS hkeep

theorem callEngine_asks {order : Order} (h : order.WellPosed) (operation : String) (hw : P w) :
    AsksOnce P R (fun call => callEngine call operation order) w := by
  have hcalls (v : World) (hv : P v) : AsksOnce P R (fun call => do call (← engine) order) v :=
    .after (Agree.of_within hS.engine hkeep) (fun e u _ hu => .call h e hu) hv
  refine .after (Agree.of_within (hS.note _) hkeep) (fun _ v _ hv => ?_) hw
  refine (hcalls v hv).attempt.bind fun outcome => ?_
  have hclosing := Agree.of_within (hS.closing operation outcome) hkeep
  cases outcome with
  | error f => exact hclosing
  | ok returned => exact hclosing

theorem perform_asks (hfiles : Housekeeping S) (operation : Campaign) (form : Form) (hw : P w) :
    AsksOnce P R (fun call => perform call operation form) w := by
  refine .after (Agree.of_eq fun _ => rfl) (fun u v _ hv => ?_) hw
  refine .after (Agree.of_within (hfiles.prepare form _ u.service.tempDir) hkeep)
    (fun (order, files) z hprepared hz => ?_) hv
  have hposed : order.WellPosed := Order.wellPosed_of_prepare hprepared
  exact ((callEngine_asks hS hkeep hposed _ hz).bind fun _ => Agree.pure _).ensure
    (Agree.of_within (hfiles.release files) hkeep)

theorem listJobs_asks (db : Value) (hw : P w) : AsksOnce P R (fun call => listJobs call db) w := by
  refine .after (Agree.settle _) (fun d v hd hv => ?_) hw
  have hposed : (listOrder d).WellPosed := Order.wellPosed_listOrder (congrArg Prod.fst hd)
  exact (callEngine_asks hS hkeep hposed _ hv).bind fun _ => Agree.pure _

theorem cancelJob_asks (job db : Value) (hw : P w) :
    AsksOnce P R (fun call => cancelJob call job db) w := by
  refine .after (Agree.settle _) (fun blank v hblank hv => ?_) hw
  cases blank with
  | true =>
    have hrefused : Agree P R (throw (.new .fieldRefused "job_id is required") : Act Unit) (throw _) :=
      Agree.throw _
    exact .of_agree hrefused hv
  | false =>
    refine .after (Agree.settle _) (fun d z hd hz => ?_) hv
    have hposed : (cancelOrder job d).WellPosed :=
      Order.wellPosed_cancelOrder (congrArg Prod.fst hblank) (congrArg Prod.fst hd)
    exact (callEngine_asks hS hkeep hposed _ hz).bind fun _ => Agree.pure _

theorem runScheduler_asks (db : Value) (hw : P w) :
    AsksOnce P R (fun call => runScheduler call db) w := by
  refine .after (Agree.settle _) (fun d v hd hv => ?_) hw
  have hposed : (schedulerOrder d).WellPosed := Order.wellPosed_schedulerOrder (congrArg Prod.fst hd)
  exact (callEngine_asks hS hkeep hposed _ hv).bind fun _ => Agree.pure _

omit [Std.Refl R] [Trans R R R] [Std.Refl S] [Trans S S S] hS hkeep in
/-- A job has to be named if it is to be cancelled; no engine is called to find that out. -/
theorem cancelJob_unnamed {job : Value} (h : Defaults.isBlank? job ≠ .ok false) (db : Value)
    (w : World) : ∃ f, ∀ call, cancelJob call job db w = (.error f, w) := by
  rcases hblank : Defaults.isBlank? job with f | _ | _
  · exact ⟨f, fun _ => bind_error (congrArg (fun blank => (blank, w)) hblank)⟩
  · exact absurd hblank h
  · exact ⟨_, fun _ => bind_ok (congrArg (fun blank => (blank, w)) hblank)⟩

/-! ## The operations of the desk -/

/-- What is asked at the desk comes to the calls that its operation comes to. -/
theorem invoke_asks {op : Call → Act Unit} (h : AsksOnce P R op w) (message : String) :
    AsksOnce P R (fun call => Desk.invoke (op call) message) w := by
  refine h.attempt.bind fun outcome => ?_
  cases outcome with
  | error f => exact Agree.of_within (hS.outcomeOf f _ _) hkeep
  | ok => exact Agree.pure _

theorem ask_asks (hfiles : Housekeeping S) (operation : Campaign) (form : Except Failure Form)
    (hw : P w) : AsksOnce P R (fun call => Desk.ask call operation form) w :=
  invoke_asks hS hkeep (.after (Agree.settle form)
    (fun filled _ _ hv => perform_asks hS hkeep hfiles operation filled hv) hw) _

theorem askJobs_asks (db : Value) (hw : P w) : AsksOnce P R (fun call => Desk.askJobs call db) w := by
  refine (listJobs_asks hS hkeep db hw).attempt.bind fun outcome => ?_
  cases outcome with
  | error f => exact Agree.of_within (hS.outcomeOf f _ _) hkeep
  | ok => exact Agree.pure _

theorem askCancel_asks (job db : Value) (hw : P w) :
    AsksOnce P R (fun call => Desk.askCancel call job db) w :=
  invoke_asks hS hkeep (cancelJob_asks hS hkeep job db hw) _

end operations

end CampaignDesk.Dispatch
