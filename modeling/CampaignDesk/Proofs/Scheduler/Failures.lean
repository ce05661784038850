import CampaignDesk.Session.Run
import CampaignDesk.Proofs.Scheduler.Handle

/-!
# What a failing listener does to others

* `Session.steps_gentle`: steps inside a call fail with ordinary failures at most.
* `Scheduler.tell_ok`: to tell a listener never fails, unless it asks to stop.
* `Scheduler.unconcerned`: **a listener that fails is nobody else's concern.** How a call ends that
  listens to a task or may end it is for the rules of tasks to say.
-/

namespace CampaignDesk

open Act

/-- A listener that does not ask to stop, whatever else it fails with. -/
def Listener.Mild (l : Listener) : Prop := ∀ f, l.failure = some f → f.kind.isOrdinary = true

namespace Session

/-- Steps inside a call fail with nothing but ordinary failures. -/
def Gentle (nested : Scheduler.Nested) : Prop :=
  ∀ list w f, (nested list w).1 = .error f → f.kind.isOrdinary = true

/-- A step is answered whether it fails or not. -/
theorem answer_ok (call : Dispatch.Call) (nested : Scheduler.Nested) (step : Step) (w : World) :
    ∃ a, (answer call nested step w).1 = .ok a := by
  simp only [answer, bind_apply, get_apply, modify_apply, attempt_apply]
  exact ⟨_, rfl⟩

/-- Steps fail only if they go too deep. -/
theorem steps_gentle (depth : Nat) : Gentle (steps depth) := by
  intro list w f hf
  cases depth with
  | zero =>
    cases hf
    rfl
  | succ depth =>
    -- a step that fails is answered with its failure
    obtain ⟨as, has⟩ := mapM_ok (answer_ok (enter (steps depth)) (steps depth)) list w
    rw [steps, has] at hf
    cases hf

end Session

namespace Scheduler

variable {nested : Nested} {n : Nat} {l : Listener} {w : World} {h : Handle}

theorem respond_error (hnested : Session.Gentle nested) (hl : l.Mild) {f : Failure}
    (hf : (respond nested l w).1 = .error f) : f.kind.isOrdinary = true := by
  unfold respond at hf
  rw [bind_apply] at hf
  rcases htake : take nested l.name l.during w with ⟨g | _, v⟩ <;> rw [htake] at hf
  · -- the steps of the listener went too deep
    cases hf
    cases hduring : l.during with
    | none => rw [hduring] at htake; cases htake
    | some steps =>
      rw [hduring, take, bind_apply] at htake
      rcases hsteps : nested steps w with ⟨e | answers, u⟩ <;> rw [hsteps] at htake <;> cases htake
      exact hnested steps w f (congrArg Prod.fst hsteps)
  · cases hfailure : l.failure with
    | none => simp only [hfailure] at hf; cases hf
    | some g =>
      simp only [hfailure] at hf
      cases hf
      exact hl f hfailure

theorem react_error (hnested : Session.Gentle nested) (hl : l.Mild) {f : Failure}
    (hf : (react nested n l w).1 = .error f) : f.kind.isOrdinary = true := by
  unfold react at hf
  rcases hn : w.handles[n]? with _ | h
  · rw [bind_error (handle_error hn)] at hf
    cases hf
    rfl
  · rw [bind_ok (handle_ok hn), bind_ok (record_apply _ _)] at hf
    exact respond_error hnested hl hf

/-- To tell a listener never fails. -/
theorem tell_ok (hnested : Session.Gentle nested) (hl : l.Mild) :
    (tell nested n l w).1 = .ok () := by
  unfold tell
  rw [bind_apply, attempt_apply]
  rcases hreact : react nested n l w with ⟨f | _, v⟩
  · have hf := react_error hnested hl (congrArg Prod.fst hreact)
    simp only [excuse, hf]
    rfl
  · rfl

theorem forM_tell_ok (hnested : Session.Gentle nested) {ls : List Listener} (hls : ∀ l ∈ ls, l.Mild)
    (w : World) : (ls.forM (tell nested n) w).1 = .ok ⟨⟩ := by
  induction ls generalizing w with
  | nil => rfl
  | cons l ls ih =>
    have htell : (tell nested n l w).1 = .ok () := tell_ok hnested (hls l List.mem_cons_self)
    change ((tell nested n l >>= fun _ => ls.forM (tell nested n)) w).1 = .ok ⟨⟩
    rw [bind_ok (Prod.ext htell rfl)]
    exact ih (fun m hm => hls m (List.mem_cons_of_mem l hm)) _

theorem logEnd_ok (h : Handle) (w : World) : logEnd h w = (.ok (), (logEnd h w).2) := by
  unfold logEnd
  rcases h.state with _ | _ | _ | (f | v) <;> rfl

theorem inform_ok (hnested : Session.Gentle nested) (hn : w.handles[n]? = some h)
    (hls : ∀ l ∈ h.listeners, l.Mild) : (inform nested n w).1 = .ok () := by
  unfold inform
  rw [bind_ok (handle_ok hn), bind_ok (logEnd_ok h w), bind_ok (update_apply _ _ _)]
  exact forM_tell_ok hnested hls _

theorem finish_outcome (hnested : Session.Gentle nested) (hn : w.handles[n]? = some h)
    (hls : ∀ l ∈ h.listeners, l.Mild) (outcome : Except Failure Value) :
    (finish nested n outcome w).1 = (h.state.finish? outcome).map fun _ => () := by
  rw [finish_apply nested outcome hn]
  rcases h.state.finish? outcome with f | state
  · rfl
  · exact inform_ok hnested (stated_ok _ hn) hls

theorem cancel_outcome (hnested : Session.Gentle nested) (hn : w.handles[n]? = some h)
    (hls : ∀ l ∈ h.listeners, l.Mild) : (cancel nested n w).1 = .ok h.state.cancel.2.1 := by
  rw [cancel_apply nested hn]
  rcases h.state.cancel with ⟨state, cancelled, _ | _⟩
  · rfl
  · have hinform := inform_ok hnested (stated_ok state hn) hls
    simp only [bind_ok (Prod.ext hinform rfl)]
    rfl

theorem listen_outcome (hnested : Session.Gentle nested) (hn : w.handles[n]? = some h)
    (hl : l.Mild) : (listen nested n l w).1 = .ok () := by
  rw [listen_apply nested l hn]
  split
  · exact tell_ok hnested hl
  · rfl

theorem pump_outcome (hnested : Session.Gentle nested) (call : Dispatch.Call)
    (hn : w.handles[n]? = some h) {target : Target} (htarget : h.target = some target)
    {state : Task.State} (hbegin : h.state.begin? = .ok (state, true)) {k : Handle}
    (hk : (work nested call target (stated w n state)).2.handles[n]? = some k)
    (hls : ∀ l ∈ k.listeners, l.Mild) :
    (pump nested call n w).1 =
      (k.state.finish? (work nested call target (stated w n state)).1).map fun _ => () := by
  rw [pump_apply nested call hn htarget, hbegin]
  exact finish_outcome hnested hk hls _

/-- Whether a call fails that listens to a task or may end it is for the rules of tasks to say. What
the listeners do makes no difference. -/
structure Unconcerned (nested : Nested) (call : Dispatch.Call) (n : Nat) (w : World) (h : Handle) :
    Prop where
  finish : ∀ outcome,
    (finish nested n outcome w).1 = (h.state.finish? outcome).map fun _ => ()
  cancel : (cancel nested n w).1 = .ok h.state.cancel.2.1
  listen : ∀ l : Listener, l.Mild → (listen nested n l w).1 = .ok ()
  /-- The target ends its task with the listeners that there are by then. -/
  pump : ∀ target state k, h.target = some target → h.state.begin? = .ok (state, true) →
    (work nested call target (stated w n state)).2.handles[n]? = some k →
    (∀ l ∈ k.listeners, l.Mild) →
    (pump nested call n w).1 =
      (k.state.finish? (work nested call target (stated w n state)).1).map fun _ => ()

theorem unconcerned (hnested : Session.Gentle nested) (call : Dispatch.Call)
    (hn : w.handles[n]? = some h) (hls : ∀ l ∈ h.listeners, l.Mild) :
    Unconcerned nested call n w h where
  finish := finish_outcome hnested hn hls
  cancel := cancel_outcome hnested hn hls
  listen _ hl := listen_outcome hnested hn hl
  pump _ _ _ htarget hbegin hk hk' := pump_outcome hnested call hn htarget hbegin hk hk'

end Scheduler

end CampaignDesk
