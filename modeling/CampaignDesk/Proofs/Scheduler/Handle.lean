import CampaignDesk.Scheduler.Handle
import CampaignDesk.Proofs.Act

/-!
# Operations on handles, one equation each

* `handle_apply`, `update_apply`: reading a handle and changing it.
* `modified_cases`: one handle changes, and the others do not.
* `tell_apply`, `listen_apply`: listeners, and what the journal has of them.
* `begin_apply`, `finish_apply`, `cancel_apply`, `pump_apply`: **a task changes its state as the rules
  of tasks say and in no other way**; whoever listens is told when it has ended.
-/

namespace CampaignDesk.Scheduler

open Act

/-- What is said of a handle that is not there. -/
def noHandle : Failure := .new .indexError "list index out of range"

theorem handle_apply (n : Nat) (w : World) : handle n w = match w.handles[n]? with
    | some h => (.ok h, w)
    | none => (.error noHandle, w) := by
  simp only [handle, bind_apply, get_apply]
  rcases w.handles[n]? with _ | h <;> rfl

@[simp] theorem update_apply (n : Nat) (g : Handle → Handle) (w : World) :
    update n g w = (.ok (), { w with handles := w.handles.modify n g }) := rfl

/-- A handle is one from before, or one from before as it has been changed. -/
theorem modified_cases {handles : List Handle} {n m : Nat} {g : Handle → Handle} {k : Handle}
    (hk : (handles.modify n g)[m]? = some k) :
    ∃ h, handles[m]? = some h ∧ (k = h ∨ n = m ∧ k = g h) := by
  rw [List.getElem?_modify] at hk
  rcases hm : handles[m]? with _ | h <;> rw [hm] at hk <;> cases hk
  refine ⟨h, rfl, ?_⟩
  by_cases hnm : n = m
  · exact .inr ⟨hnm, if_pos hnm⟩
  · exact .inl (if_neg hnm)

theorem handle_ok {n : Nat} {w : World} {h : Handle} (hn : w.handles[n]? = some h) :
    handle n w = (.ok h, w) := by
  rw [handle_apply, hn]

theorem handle_error {n : Nat} {w : World} (hn : w.handles[n]? = none) :
    handle n w = (.error noHandle, w) := by
  rw [handle_apply, hn]

/-- The world with a handle whose task has another state. -/
def stated (w : World) (n : Nat) (state : Task.State) : World :=
  { w with handles := w.handles.modify n fun h => { h with state := state } }

/-- A world with one more entry in its journal. -/
def noted (w : World) (e : Entry) : World :=
  { w with journal := w.journal ++ [(w.current, e)] }

variable {n : Nat} {w : World} {h : Handle}

theorem stated_ok (state : Task.State) (hn : w.handles[n]? = some h) :
    (stated w n state).handles[n]? = some { h with state := state } := by
  simp [stated, hn]

/-- What comes after a listener has been told is its response. -/
theorem tell_apply (nested : Nested) (l : Listener) (hn : w.handles[n]? = some h) :
    tell nested n l w =
      (attempt (respond nested l) >>= excuse) (noted w (.told l.name h.status)) := by
  have hreact : react nested n l w = respond nested l (noted w (.told l.name h.status)) := by
    unfold react
    rw [bind_ok (handle_ok hn), bind_ok (record_apply _ _)]
    rfl
  unfold tell
  rw [bind_apply, bind_apply, attempt_apply, attempt_apply, hreact]

theorem listen_apply (nested : Nested) (l : Listener) (hn : w.handles[n]? = some h) :
    listen nested n l w = if h.notified then tell nested n l (noted w (.added l.name))
      else update n (fun h => { h with listeners := h.listeners ++ [l] })
        (noted w (.added l.name)) := by
  unfold listen
  rw [bind_ok (handle_ok hn), bind_ok (record_apply _ _)]
  cases h.notified <;> rfl

theorem begin_apply (hn : w.handles[n]? = some h) : begin n w = match h.state.begin? with
    | .ok (state, go) => (.ok go, stated w n state)
    | .error f => (.error f, w) := by
  simp only [begin, bind_apply, handle_ok hn, settle_apply]
  rcases h.state.begin? with f | ⟨state, go⟩ <;> rfl

theorem finish_apply (nested : Nested) (outcome : Except Failure Value)
    (hn : w.handles[n]? = some h) :
    finish nested n outcome w = match h.state.finish? outcome with
      | .ok state => inform nested n (stated w n state)
      | .error f => (.error f, w) := by
  simp only [finish, bind_apply, handle_ok hn, settle_apply]
  rcases h.state.finish? outcome with f | state <;> rfl

theorem cancel_apply (nested : Nested) (hn : w.handles[n]? = some h) :
    cancel nested n w = match h.state.cancel with
      | (state, cancelled, true) =>
        (inform nested n >>= fun _ => pure cancelled) (stated w n state)
      | (_, cancelled, false) => (.ok cancelled, w) := by
  unfold cancel
  rw [bind_ok (handle_ok hn)]
  rcases h.state.cancel with ⟨state, cancelled, _ | _⟩ <;> rfl

/-- The target of a handle runs only if its task waits; then the task ends as the target does. -/
theorem pump_apply (nested : Nested) (call : Dispatch.Call) {target : Target}
    (hn : w.handles[n]? = some h) (ht : h.target = some target) :
    pump nested call n w = match h.state.begin? with
      | .ok (state, true) =>
        let ended := work nested call target (stated w n state)
        finish nested n ended.1 ended.2
      | .ok (state, false) => (.ok (), stated w n state)
      | .error f => (.error f, w) := by
  simp only [pump, bind_apply, handle_ok hn, ht, begin_apply hn]
  rcases h.state.begin? with f | ⟨state, _ | _⟩
  · rfl
  · rfl
  · simp only [if_true, bind_apply, attempt_apply]

end CampaignDesk.Scheduler
