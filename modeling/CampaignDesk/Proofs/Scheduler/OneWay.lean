import CampaignDesk.Proofs.Scheduler.Course
import CampaignDesk.Proofs.Scheduler.Exclusive
import CampaignDesk.Proofs.Scheduler.Failures

/-!
# Handles go one way

* `World.Driven`: targets, listeners and engines have to do with the scheduler only.
* `World.Moved`, `World.Settled`: what may become of handles meanwhile, and by the end of a step.
* `Session.trackedSteps`: a session that raises an alarm whenever a world contradicts an earlier one,
  or a target is called that had its chance.
* `OneWay.perform_agrees`, `OneWay.steps_agree`: **every step lets all handles go on as the rules of
  tasks say**, at every depth.
* `handle_one_way`: the alarm is never raised, and what a handle answers is what became of its target.
-/

namespace CampaignDesk

open Act

/-! ## Handles that go on -/

/-- A handle after some time: its database and its target are the same, and its task has moved on. -/
structure Handle.Continues (h k : Handle) : Prop where
  db : k.db = h.db
  target : k.target = h.target
  leads : h.state.Leads k.state

/-- A target that takes steps that have to do with the scheduler, if it takes any. -/
def Target.Schedules : Target → Prop
  | .scheduler _ => True
  | .steps during _ => Taking Step.Schedules during

/-- The target and the listeners of a handle take such steps only. -/
structure Handle.Schedules (h : Handle) : Prop where
  target : ∀ t, h.target = some t → t.Schedules
  listeners : ∀ l ∈ h.listeners, Taking Step.Schedules l.during

namespace World

/-- Whatever is called from such a world takes steps that have to do with the scheduler. -/
structure Driven (w : World) : Prop where
  handles : ∀ (n : Nat) (h : Handle), w.handles[n]? = some h → h.Schedules
  script : ∀ a ∈ w.script.actions, Taking Step.Schedules a.during

/-- Every handle has gone on. -/
def Moved (w v : World) : Prop :=
  ∀ (n : Nat) (h : Handle), w.handles[n]? = some h →
    ∃ k, v.handles[n]? = some k ∧ h.Continues k

/-- Every handle has gone on, and the tasks that run are the same as before. If the desk has another
scheduler it is one of the handles. -/
structure Settled (w v : World) : Prop where
  moved : w.Moved v
  runs : ∀ n, v.Runs n ↔ w.Runs n
  scheduler : v.scheduler = w.scheduler ∨ ∃ n, v.scheduler = some n ∧ n < v.handles.length

/-- Whether the task of a handle has begun or has been called off. -/
def spent (w : World) (n : Nat) : Bool := w.handles[n]?.any fun h => h.status ≠ .pending

/-- No handle goes missing from one world to the next, and what is told of each goes one way. -/
def Precedes (u w : World) : Prop :=
  u.handles.length ≤ w.handles.length ∧
    ∀ p ∈ u.handles.zip w.handles, p.1.status.mayBecome p.2.status = true

instance (u w : World) : Decidable (u.Precedes w) := inferInstanceAs (Decidable (_ ∧ _))

end World

open World

namespace Scheduler

/-- As `pump`, for any way to call a target. -/
def pumping (invoke : Target → Act Value) (nested : Nested) (n : Nat) : Act Unit := do
  match (← handle n).target with
  | none => throw (.noAttribute .null "run")
  | some target =>
    if ← begin n then
      let outcome ← attempt (invoke target)
      finish nested n outcome

end Scheduler

namespace Session

/-- Raises an alarm if the world contradicts an earlier one. -/
def heed (alarm : Act Unit) (since : List World) : Act Unit :=
  fun w => if ∀ u ∈ since, u.Precedes w then (.ok (), w) else alarm w

/-- An operation before and after which the world is compared with all earlier ones. -/
def heeding {α : Type} (alarm : Act Unit) (since : List World) (act : Act α) : Act α := do
  heed alarm since
  let outcome ← attempt act
  heed alarm since
  settle outcome

/-- Raises an alarm before the target of a handle is called if its task had begun or had been called
off in an earlier world. -/
def sparing {α : Type} (alarm : Act Unit) (since : List World) (n : Nat) (act : Act α) : Act α := do
  if since.any (·.spent n) then alarm
  act

/-- What one step does, with an eye on the target that it may call. -/
def trackedPerform (alarm : Act Unit) (since : List World) (call : Dispatch.Call)
    (nested : Scheduler.Nested) : Step → Act Reply
  | .pump handle => do
    let n ← handleNumber handle
    Scheduler.pumping (fun target => sparing alarm since n (Scheduler.work nested call target))
      nested n
    return nothing
  | step => perform call nested step

/-- Steps one after the other; each knows of the worlds that were there before. -/
def inTurn (act : List World → Step → Act Answer) : (since : List World) → Scheduler.Nested
  | _, [] => pure []
  | since, step :: list => do
    let w ← get
    let a ← act (w :: since) step
    let as ← inTurn act (w :: since) list
    return a :: as

/-- Steps that are tracked, at every depth, from the earlier worlds on. -/
def trackedSteps (alarm : Act Unit) : (depth : Nat) → (since : List World) → Scheduler.Nested
  | 0, _, _ => throw tooDeep
  | depth + 1, since, list => inTurn (fun since step =>
      heeding alarm since (answering (trackedPerform alarm since
        (enter (trackedSteps alarm depth since)) (trackedSteps alarm depth since) step)))
      since list

end Session

namespace OneWay

open Exclusive (launched launched_old launched_cases launch_cases)

variable {since : List World} {n : Nat} {w v u : World} {h k : Handle}

theorem continues_refl (h : Handle) : h.Continues h := ⟨rfl, rfl, .refl _⟩

theorem continues_trans {i : Handle} (p : h.Continues k) (q : k.Continues i) : h.Continues i :=
  ⟨q.db.trans p.db, q.target.trans p.target, p.leads.trans q.leads⟩

instance : Std.Refl Moved := ⟨fun _ _ h hn => ⟨h, hn, continues_refl h⟩⟩

instance : Trans Moved Moved Moved where
  trans p q := by
    intro n h hn
    obtain ⟨k, hk, hcontinues⟩ := p n h hn
    obtain ⟨i, hi, hcontinues'⟩ := q n k hk
    exact ⟨i, hi, continues_trans hcontinues hcontinues'⟩

/-- Handles are not removed. -/
theorem moved_length (h : Moved w v) : w.handles.length ≤ v.handles.length := by
  rcases Nat.lt_or_ge v.handles.length w.handles.length with hlt | hge
  · obtain ⟨k, hk, -⟩ := h _ _ (List.getElem?_eq_getElem hlt)
    rw [List.getElem?_eq_none (Nat.le_refl _)] at hk
    cases hk
  · exact hge

/-- A task that has begun or has been called off does not wait again. -/
theorem spent_of_moved (h : Moved w v) (hspent : w.spent n = true) : v.spent n = true := by
  unfold spent at hspent ⊢
  rcases hn : w.handles[n]? with _ | i <;> rw [hn] at hspent
  · cases hspent
  obtain ⟨k, hk, hcontinues⟩ := h n i hn
  rw [Option.any_some, decide_eq_true_eq] at hspent
  rw [hk, Option.any_some, decide_eq_true_eq]
  intro hpending
  have hwaiting := hcontinues.leads.waiting (Task.State.status_pending.1 hpending)
  exact hspent (Task.State.status_pending.2 hwaiting)

theorem precedes_of_moved (h : Moved w v) : w.Precedes v := by
  refine ⟨moved_length h, ?_⟩
  rintro ⟨i, k⟩ hp
  obtain ⟨n, hn⟩ := List.mem_iff_getElem?.1 hp
  rw [List.getElem?_zip_eq_some] at hn
  obtain ⟨k', hk', hcontinues⟩ := h n i hn.1
  obtain rfl : k = k' := Option.some.inj (hn.2.symm.trans hk')
  exact hcontinues.leads.status

instance : Std.Refl Settled := ⟨fun w => ⟨Std.Refl.refl w, fun _ => Iff.rfl, .inl rfl⟩⟩

instance : Trans Settled Settled Settled where
  trans p q := by
    refine ⟨Trans.trans p.moved q.moved, fun n => (q.runs n).trans (p.runs n), ?_⟩
    rcases q.scheduler with hq | hq
    · rcases p.scheduler with hp | ⟨n, hp, hn⟩
      · exact .inl (hq.trans hp)
      · exact .inr ⟨n, hq.trans hp, Nat.lt_of_lt_of_le hn (moved_length q.moved)⟩
    · exact .inr hq

/-- The invariant of steps that have to do with the scheduler: all handles have gone on since the
earlier worlds. -/
structure Good (since : List World) (w : World) : Prop where
  driven : w.Driven
  moved : ∀ u ∈ since, u.Moved w

theorem Good.of_moved (hw : Good since w) (h : Moved w v) (hv : v.Driven) : Good since v :=
  ⟨hv, fun u hu => Trans.trans (hw.moved u hu) h⟩

theorem Good.cons (hw : Good since w) : Good (w :: since) w :=
  ⟨hw.driven, List.forall_mem_cons.2 ⟨Std.Refl.refl w, hw.moved⟩⟩

theorem Good.of_cons (hw : Good (u :: since) w) : Good since w :=
  ⟨hw.driven, fun v hv => hw.moved v (List.mem_cons_of_mem u hv)⟩

theorem moved_of_handles (h : v.handles = w.handles) : Moved w v := by
  intro n k hn
  exact ⟨k, by rw [h]; exact hn, continues_refl k⟩

theorem sameDesk_settled (h : Exclusive.SameDesk w v) : Settled w v := by
  refine ⟨moved_of_handles h.handles, fun n => ?_, .inl h.scheduler⟩
  unfold Runs
  rw [h.handles]

theorem sameDesk_keeps (w v : World) (h : Exclusive.SameDesk w v) (hw : Good since w) :
    Good since v ∧ Settled w v := by
  have hsettled := sameDesk_settled h
  refine ⟨hw.of_moved hsettled.moved ⟨?_, ?_⟩, hsettled⟩
  · rw [h.handles]
    exact hw.driven.handles
  · rw [h.actions]
    exact hw.driven.script

/-! ## One handle changes -/

theorem moved_modify {g : Handle → Handle}
    (hg : ∀ h, w.handles[n]? = some h → h.Continues (g h)) :
    Moved w { w with handles := w.handles.modify n g } := by
  intro m h hm
  refine ⟨_, by rw [List.getElem?_modify, hm]; rfl, ?_⟩
  split
  · rename_i hnm
    exact hg h (hnm ▸ hm)
  · exact continues_refl h

theorem driven_modify (hw : w.Driven) {g : Handle → Handle}
    (hg : ∀ h : Handle, h.Schedules → (g h).Schedules) :
    Driven { w with handles := w.handles.modify n g } := by
  refine ⟨fun m k hk => ?_, hw.script⟩
  obtain ⟨h, hm, rfl | ⟨-, rfl⟩⟩ := Scheduler.modified_cases hk
  · exact hw.handles m k hm
  · exact hg h (hw.handles m h hm)

/-- Which tasks run if one of them comes to another state. -/
theorem runs_stated (hn : w.handles[n]? = some h) (state : Task.State) (m : Nat) :
    (Scheduler.stated w n state).Runs m ↔ if m = n then state = .running else w.Runs m := by
  by_cases hmn : m = n
  · subst hmn
    rw [if_pos rfl]
    constructor
    · rintro ⟨k, hk, hruns⟩
      rw [Scheduler.stated_ok state hn] at hk
      cases hk
      exact hruns
    · exact fun hstate => ⟨_, Scheduler.stated_ok state hn, hstate⟩
  · rw [if_neg hmn]
    have hsame : (Scheduler.stated w n state).handles[m]? = w.handles[m]? := by
      have hnm : n ≠ m := fun heq => hmn heq.symm
      simp [Scheduler.stated, hnm]
    unfold Runs
    rw [hsame]

theorem moved_stated (hn : w.handles[n]? = some h) {state : Task.State}
    (hleads : h.state.Leads state) : Moved w (Scheduler.stated w n state) := by
  refine moved_modify fun k hk => ?_
  obtain rfl : h = k := Option.some.inj (hn.symm.trans hk)
  exact ⟨rfl, rfl, hleads⟩

theorem Good.stated (hw : Good since w) (hn : w.handles[n]? = some h) {state : Task.State}
    (hleads : h.state.Leads state) : Good since (Scheduler.stated w n state) :=
  hw.of_moved (moved_stated hn hleads) (driven_modify hw.driven fun _ hk => ⟨hk.target, hk.listeners⟩)

/-- A task moves on that did not run and does not run. -/
theorem settled_stated (hn : w.handles[n]? = some h) {state : Task.State}
    (hleads : h.state.Leads state) (hbefore : h.state ≠ .running) (hafter : state ≠ .running) :
    Settled w (Scheduler.stated w n state) := by
  refine ⟨moved_stated hn hleads, fun m => ?_, .inl rfl⟩
  rw [runs_stated hn]
  by_cases hmn : m = n
  · subst hmn
    rw [if_pos rfl]
    refine ⟨fun hruns => absurd hruns hafter, ?_⟩
    rintro ⟨k, hk, hruns⟩
    obtain rfl : h = k := Option.some.inj (hn.symm.trans hk)
    exact absurd hruns hbefore
  · rw [if_neg hmn]

/-- **What runs ends as it is told to.** Between the beginning of a task and its end others may take
their steps; by then the task still runs. -/
theorem settled_ends (hn : w.handles[n]? = some h) (hwaits : h.state = .waiting) (hv : Good since v)
    (hmeanwhile : Settled (Scheduler.stated w n .running) v)
    (outcome : Except Failure Value) :
    ∃ k, v.handles[n]? = some k ∧ k.state = .running ∧
      Good since (Scheduler.stated v n (.finished outcome)) ∧
      Settled w (Scheduler.stated v n (.finished outcome)) := by
  have hbegins : h.state.Leads .running := hwaits ▸ Task.State.Moves.begins.leads
  obtain ⟨k, hk, hruns⟩ := (hmeanwhile.runs n).2 ⟨_, Scheduler.stated_ok _ hn, rfl⟩
  have hends : k.state.Leads (.finished outcome) := hruns ▸ (Task.State.Moves.ends outcome).leads
  refine ⟨k, hk, hruns, hv.stated hk hends, ?_, fun m => ?_, ?_⟩
  · exact Trans.trans (Trans.trans (moved_stated hn hbegins) hmeanwhile.moved) (moved_stated hk hends)
  · rw [runs_stated hk]
    by_cases hmn : m = n
    · subst hmn
      rw [if_pos rfl]
      refine ⟨nofun, ?_⟩
      rintro ⟨i, hi, hruns'⟩
      obtain rfl : h = i := Option.some.inj (hn.symm.trans hi)
      rw [hwaits] at hruns'
      cases hruns'
    · rw [if_neg hmn, hmeanwhile.runs, runs_stated hn, if_neg hmn]
  · have hlength : (Scheduler.stated v n (.finished outcome)).handles.length = v.handles.length :=
      List.length_modify _ _ _
    rw [hlength]
    exact hmeanwhile.scheduler

/-- To add and to tell listeners keeps the invariant. -/
theorem attended : Attended Step.Schedules (Good since) Settled Exclusive.SameDesk where
  toBeside := Exclusive.sameDesk_aside.toBeside
  added _ := fun _ => ⟨rfl, rfl, rfl⟩
  told _ _ := fun _ => ⟨rfl, rfl, rfl⟩
  keeps := sameDesk_keeps
  listeners _ n h hw hn := (hw.driven.handles n h hn).listeners
  update n g hg hlisteners := by
    intro w hw
    have hmoved : Moved w { w with handles := w.handles.modify n g } :=
      moved_modify fun h _ => ⟨hg.db h, hg.target h, by rw [hg.state]⟩
    refine ⟨rfl, hw.of_moved hmoved (driven_modify hw.driven fun h hh => ⟨?_, ?_⟩), hmoved,
      fun m => ?_, .inl rfl⟩
    · rw [hg.target]
      exact hh.target
    · exact hlisteners h hh.listeners
    · -- whether a task runs is not touched
      unfold Runs
      rw [Scheduler.update_apply, List.getElem?_modify]
      rcases hm : w.handles[m]? with _ | h
      · simp
      · by_cases hnm : n = m
        · simp [hnm, hg.state]
        · simp [hnm]

/-! ## Calling off -/

section nested

variable {nested nested' : Scheduler.Nested}

/-- Steps inside a call, tracked and not tracked, do the same. -/
abbrev Tracked (since : List World) (nested nested' : Scheduler.Nested) : Prop :=
  NestedAgree Step.Schedules (Good since) Settled nested nested'

theorem cancel_agrees (hnested : Tracked since nested nested') (n : Nat) :
    Agree (Good since) Settled (Scheduler.cancel nested n) (Scheduler.cancel nested' n) := by
  refine attended.cancel_agrees hnested (fun w n h hw hn hwaits => ?_) n
  have hleads : h.state.Leads (.cancelled false) := hwaits ▸ Task.State.Moves.calledOff.leads
  have hbefore : h.state ≠ .running := by simp [hwaits]
  have hafter : Task.State.cancelled false ≠ .running := by simp
  exact ⟨hw.stated hn hleads, settled_stated hn hleads hbefore hafter⟩

/-! ## Background runs -/

theorem work_agrees (hnested : Tracked since nested nested') {target : Target}
    (htarget : target.Schedules) :
    Agree (Good since) Settled (Scheduler.work nested (Session.enter nested) target)
      (Scheduler.work nested' (Session.enter nested') target) := by
  cases target with
  | scheduler db =>
    refine (Session.runScheduler_agrees Exclusive.sameDesk_incidental sameDesk_keeps (fun e d => ?_)
      db).bind fun _ => Agree.pure _
    exact Session.enter_agrees Exclusive.sameDesk_aside sameDesk_keeps
      (fun _ hw => hw.driven.script) hnested e _
  | steps during outcome =>
    have htaken := Session.take_agrees Exclusive.sameDesk_aside.toBeside sameDesk_keeps hnested htarget
    exact (htaken "target").bind fun _ => Agree.settle _

theorem pumping_apply (invoke : Target → Act Value) (nested : Scheduler.Nested) {target : Target}
    (hn : w.handles[n]? = some h) (ht : h.target = some target) :
    Scheduler.pumping invoke nested n w = match h.state.begin? with
      | .ok (state, true) =>
        let ended := invoke target (Scheduler.stated w n state)
        Scheduler.finish nested n ended.1 ended.2
      | .ok (state, false) => (.ok (), Scheduler.stated w n state)
      | .error f => (.error f, w) := by
  simp only [Scheduler.pumping, bind_apply, Scheduler.handle_ok hn, ht, Scheduler.begin_apply hn]
  rcases h.state.begin? with f | ⟨state, _ | _⟩
  · rfl
  · rfl
  · simp only [if_true, bind_apply, attempt_apply]

/-- The target of a task that waits has not had its chance in any earlier world. -/
theorem sparing_eq {α : Type} (alarm : Act Unit) (hw : Good since w) (hn : w.handles[n]? = some h)
    (hwaits : h.state = .waiting) (act : Act α) : Session.sparing alarm since n act = act := by
  have hspared : since.any (·.spent n) = false := by
    rw [List.any_eq_false]
    intro u hu hspent
    have hspent' := spent_of_moved (hw.moved u hu) hspent
    unfold spent at hspent'
    rw [hn, Option.any_some, decide_eq_true_eq] at hspent'
    exact hspent' (Task.State.status_pending.2 hwaits)
  unfold Session.sparing
  rw [hspared]
  rfl

/-- **A target is called once at most.** It is called if its task waits, which is not so in any later
world, and then the task ends as the target does. -/
theorem pump_agrees (alarm : Act Unit) (hnested : Tracked since nested nested') (n : Nat) :
    Agree (Good since) Settled (Scheduler.pump nested (Session.enter nested) n)
      (Scheduler.pumping (fun target => Session.sparing alarm since n
        (Scheduler.work nested' (Session.enter nested') target)) nested' n) := by
  intro w hw
  rcases hn : w.handles[n]? with _ | h
  · have herror := Scheduler.handle_error hn
    unfold Scheduler.pump Scheduler.pumping
    rw [bind_error herror, bind_error herror]
    exact ⟨rfl, hw, Std.Refl.refl w⟩
  rcases htarget : h.target with _ | target
  · have hok := Scheduler.handle_ok hn
    unfold Scheduler.pump Scheduler.pumping
    rw [bind_ok hok, bind_ok hok, htarget]
    exact ⟨rfl, hw, Std.Refl.refl w⟩
  rw [Scheduler.pump_apply _ _ hn htarget, pumping_apply _ _ hn htarget]
  cases hstate : h.state with
  | waiting =>
    have hbegins : h.state.Leads .running := hstate ▸ Task.State.Moves.begins.leads
    obtain ⟨heq, hgood, hsettled⟩ := work_agrees hnested
      ((hw.driven.handles n h hn).target target htarget) _ (hw.stated hn hbegins)
    simp only [Task.State.begin?]
    rw [sparing_eq alarm hw hn hstate, heq]
    -- nobody else has ended the task meanwhile
    obtain ⟨k, hk, hruns, hgood', hsettled'⟩ := settled_ends hn hstate hgood hsettled _
    rw [Scheduler.finish_apply _ _ hk, Scheduler.finish_apply _ _ hk, hruns]
    obtain ⟨heq', hgood'', hsettled''⟩ := attended.inform_agrees hnested n _ hgood'
    exact ⟨heq', hgood'', Trans.trans hsettled' hsettled''⟩
  | running | finished => exact ⟨rfl, hw, Std.Refl.refl w⟩
  | cancelled noticed =>
    cases noticed with
    | true => exact ⟨rfl, hw, Std.Refl.refl w⟩
    | false =>
      have hleads : h.state.Leads (.cancelled true) := hstate ▸ Task.State.Moves.noticed.leads
      have hbefore : h.state ≠ .running := by simp [hstate]
      have hafter : Task.State.cancelled true ≠ .running := by simp
      exact ⟨rfl, hw.stated hn hleads, settled_stated hn hleads hbefore hafter⟩

end nested

/-! ## Starting -/

theorem launched_moved (w : World) (db : Value) : Moved w (launched w db) :=
  fun _ h hn => ⟨h, launched_old db hn, continues_refl h⟩

/-- The new handle waits, and all others stay as they are. -/
theorem launched_settled (w : World) (db : Value) : Settled w (launched w db) := by
  refine ⟨launched_moved w db, fun n => ⟨?_, ?_⟩, .inr ⟨w.handles.length, rfl, ?_⟩⟩
  · rintro ⟨h, hn, hruns⟩
    rcases launched_cases hn with hn | ⟨-, rfl⟩
    · exact ⟨h, hn, hruns⟩
    · cases hruns
  · rintro ⟨h, hn, hruns⟩
    exact ⟨h, launched_old db hn, hruns⟩
  · unfold launched
    rw [List.length_append]
    exact Nat.lt_succ_self _

theorem launched_driven (hw : w.Driven) (db : Value) : (launched w db).Driven := by
  refine ⟨fun n h hn => ?_, hw.script⟩
  rcases launched_cases hn with hn | ⟨-, rfl⟩
  · exact hw.handles n h hn
  · refine ⟨?_, List.forall_mem_nil _⟩
    rintro t ⟨⟩
    trivial

theorem launch_agrees (db : Value) :
    Agree (Good since) Settled (Exclusive.launch db) (Exclusive.launch db) := by
  intro w hw
  refine ⟨rfl, ?_⟩
  rcases launch_cases db w with ⟨f, -, hlaunch⟩ | ⟨d, v, -, hsame, hlaunch⟩ <;> rw [hlaunch]
  · exact ⟨hw, Std.Refl.refl w⟩
  · obtain ⟨hv, hsettled⟩ := sameDesk_keeps w v hsame hw
    exact ⟨hv.of_moved (launched_moved v d) (launched_driven hv.driven d),
      Trans.trans hsettled (launched_settled v d)⟩

theorem askStart_agrees (db : Value) :
    Agree (Good since) Settled (Desk.askStart db) (Desk.askStart db) :=
  Exclusive.askStart_of_launch (launch_agrees db)

/-! ## Steps -/

variable {nested nested' : Scheduler.Nested}

/-- **Every step lets all handles go on**, tracked or not. -/
theorem perform_agrees (alarm : Act Unit) (hnested : Tracked since nested nested') {step : Step}
    (hstep : step.Schedules) :
    Agree (Good since) Settled (Session.perform (Session.enter nested) nested step)
      (Session.trackedPerform alarm since (Session.enter nested') nested' step) := by
  cases hstep with
  | askStart db => exact (askStart_agrees db).bind fun _ => Agree.pure _
  | askStatus =>
    exact attended.of_within (Session.askStatus_within.bind fun _ => Within.pure _)
  | query handle what =>
    exact attended.of_within ((Session.handleNumber_within handle).bind fun n =>
      (Session.handle_within n).bind fun _ => Within.settle _)
  | cancel handle =>
    exact (attended.of_within (Session.handleNumber_within handle)).bind fun n =>
      (cancel_agrees hnested n).bind fun _ => Agree.pure _
  | pump handle =>
    exact (attended.of_within (Session.handleNumber_within handle)).bind fun n =>
      (pump_agrees alarm hnested n).bind fun _ => Agree.pure _
  | listen handle name failure hduring =>
    exact (attended.of_within (Session.handleNumber_within handle)).bind fun n =>
      (attended.listen_agrees hnested (l := ⟨name, _, failure⟩) hduring n).bind fun _ =>
        Agree.pure _

/-- No world contradicts an earlier one where the invariant holds. -/
theorem heeding_agrees {α : Type} (alarm : Act Unit) {act act' : Act α}
    (h : Agree (Good since) Settled act act') :
    Agree (Good since) Settled act (Session.heeding alarm since act') :=
  h.checked fun _ hw => if_pos fun u hu => precedes_of_moved (hw.moved u hu)

/-- Steps that are tracked one after the other do the same as steps that are not. -/
theorem inTurn_agrees {act : Step → Act Answer} {act' : List World → Step → Act Answer}
    {list : List Step} (h : ∀ since, ∀ step ∈ list, Agree (Good since) Settled (act step)
      (act' since step)) (since : List World) :
    Agree (Good since) Settled (list.mapM act) (Session.inTurn act' since list) := by
  induction list generalizing since with
  | nil => exact Agree.pure _
  | cons step list ih =>
    intro w hw
    have hrest := ih (fun since s hs => h since s (List.mem_cons_of_mem step hs)) (w :: since)
    -- the world in which the step begins is one of the earlier ones from then on
    obtain ⟨heq, hgood, hsettled⟩ :=
      ((h (w :: since) step List.mem_cons_self).bind fun a =>
        hrest.bind fun as => Agree.pure (a :: as)) w hw.cons
    rw [List.mapM_cons]
    exact ⟨heq, hgood.of_cons, hsettled⟩

/-- **A session that is tracked does the same as one that is not**, at every depth. -/
theorem steps_agree (alarm : Act Unit) (depth : Nat) (since : List World) :
    Tracked since (Session.steps depth) (Session.trackedSteps alarm depth since) := by
  induction depth generalizing since with
  | zero => exact fun list _ => Agree.of_eq fun _ => rfl
  | succ depth ih =>
    refine fun list hlist => inTurn_agrees (fun since step hstep => ?_) since
    rw [Session.answer_eq]
    exact heeding_agrees alarm (Session.answering_agrees Exclusive.sameDesk_aside sameDesk_keeps
      (perform_agrees alarm (ih since) (hlist step hstep)))

/-! ## What one call does -/

/-- How the status of a handle decides what becomes of its target and of an attempt to call its task
off. -/
structure Governed (nested : Scheduler.Nested) (call : Dispatch.Call) (n : Nat) (w : World)
    (h : Handle) : Prop where
  /-- The target of a task that waits is called while the task runs, and the task ends as it does. -/
  called : ∀ target, h.target = some target → h.status = .pending →
    let ended := Scheduler.work nested call target (Scheduler.stated w n .running)
    ended.2.Runs n ∧ ∃ k, (Scheduler.pump nested call n w).2.handles[n]? = some k ∧
      h.Continues k ∧ k.state = .finished ended.1
  /-- No other target is called. -/
  spared : ∀ target, h.target = some target → h.status ≠ .pending →
    Scheduler.pump nested call n w = match h.state with
      | .cancelled false => (.ok (), Scheduler.stated w n (.cancelled true))
      | _ => (.error (.new .runtimeError "Future in unexpected state"), w)
  calledOff : h.status = .pending →
    ∃ k, (Scheduler.cancel nested n w).2.handles[n]? = some k ∧ k.status = .cancelled
  unaffected : h.status ≠ .pending →
    Scheduler.cancel nested n w = (.ok (decide (h.status = .cancelled)), w)
  answered : ∀ b, (Scheduler.cancel nested n w).1 = .ok b →
    (b = true ↔ h.status = .pending ∨ h.status = .cancelled)
  /-- Nothing keeps the attempt from being answered but a listener that asks to stop. -/
  answers : (∀ l ∈ h.listeners, l.Mild) →
    (Scheduler.cancel nested n w).1 = .ok (decide (h.status = .pending ∨ h.status = .cancelled))

theorem governed_called (hnested : Tracked since nested nested) (hw : Good since w)
    (hn : w.handles[n]? = some h) {target : Target} (htarget : h.target = some target)
    (hwaits : h.state = .waiting) :
    let call := Session.enter nested
    let ended := Scheduler.work nested call target (Scheduler.stated w n .running)
    ended.2.Runs n ∧ ∃ k, (Scheduler.pump nested call n w).2.handles[n]? = some k ∧
      h.Continues k ∧ k.state = .finished ended.1 := by
  intro call ended
  have hbegins : h.state.Leads .running := hwaits ▸ Task.State.Moves.begins.leads
  obtain ⟨-, hgood, hsettled⟩ := work_agrees hnested
    ((hw.driven.handles n h hn).target target htarget) _ (hw.stated hn hbegins)
  obtain ⟨k, hk, hruns, hgood', hsettled'⟩ := settled_ends hn hwaits hgood hsettled ended.1
  obtain ⟨-, -, hinformed⟩ := attended.inform_agrees hnested n _ hgood'
  have hpump : Scheduler.pump nested call n w =
      Scheduler.inform nested n (Scheduler.stated ended.2 n (.finished ended.1)) := by
    rw [Scheduler.pump_apply _ _ hn htarget, hwaits]
    simp only [Task.State.begin?]
    rw [Scheduler.finish_apply _ _ hk, hruns]
    rfl
  obtain ⟨i, hi, hcontinues⟩ := hinformed.moved n _ (Scheduler.stated_ok _ hk)
  obtain ⟨i', hi', hcontinues'⟩ := (Trans.trans hsettled' hinformed : Settled w _).moved n h hn
  obtain rfl : i = i' := Option.some.inj (hi.symm.trans hi')
  refine ⟨⟨k, hk, hruns⟩, i, ?_, hcontinues', hcontinues.leads.of_finished⟩
  rw [hpump]
  exact hi

theorem governed_spared (nested : Scheduler.Nested) (call : Dispatch.Call)
    (hn : w.handles[n]? = some h) {target : Target} (htarget : h.target = some target)
    (hspent : h.status ≠ .pending) :
    Scheduler.pump nested call n w = match h.state with
      | .cancelled false => (.ok (), Scheduler.stated w n (.cancelled true))
      | _ => (.error (.new .runtimeError "Future in unexpected state"), w) := by
  rw [Scheduler.pump_apply nested call hn htarget]
  cases hstate : h.state with
  | waiting => exact absurd (Task.State.status_pending.2 hstate) hspent
  | running | finished => rfl
  | cancelled noticed => cases noticed <;> rfl

theorem governed_unaffected (nested : Scheduler.Nested) (hn : w.handles[n]? = some h)
    (hspent : h.status ≠ .pending) :
    Scheduler.cancel nested n w = (.ok (decide (h.status = .cancelled)), w) := by
  rw [Scheduler.cancel_apply nested hn]
  unfold Handle.status at hspent ⊢
  cases hstate : h.state with
  | waiting => exact absurd (Task.State.status_pending.2 hstate) hspent
  | running | cancelled => rfl
  | finished outcome => cases outcome <;> rfl

theorem governed_calledOff (hnested : Tracked since nested nested) (hw : Good since w)
    (hn : w.handles[n]? = some h) (hwaits : h.state = .waiting) :
    ∃ k, (Scheduler.cancel nested n w).2.handles[n]? = some k ∧ k.status = .cancelled := by
  have hleads : h.state.Leads (.cancelled false) := hwaits ▸ Task.State.Moves.calledOff.leads
  obtain ⟨-, -, hsettled⟩ := ((attended.inform_agrees hnested n).bind fun _ => Agree.pure true) _
    (hw.stated hn hleads)
  obtain ⟨k, hk, hcontinues⟩ := hsettled.moved n _ (Scheduler.stated_ok _ hn)
  refine ⟨k, ?_, (hcontinues.leads.of_done rfl).2.1⟩
  rw [Scheduler.cancel_apply nested hn, hwaits]
  exact hk

theorem governed_answered (nested : Scheduler.Nested) (hn : w.handles[n]? = some h) {b : Bool}
    (hb : (Scheduler.cancel nested n w).1 = .ok b) : b = h.state.cancel.2.1 := by
  rw [Scheduler.cancel_apply nested hn] at hb
  revert hb
  rcases h.state.cancel with ⟨state, cancelled, _ | _⟩ <;> intro hb
  · cases hb
    rfl
  · simp only [bind_apply] at hb
    rcases hinform : Scheduler.inform nested n (Scheduler.stated w n state) with ⟨_ | _, v⟩ <;>
      rw [hinform] at hb <;> cases hb
    rfl

theorem governed (hnested : Tracked since nested nested) (hgentle : Session.Gentle nested)
    (hw : Good since w) (hn : w.handles[n]? = some h) :
    Governed nested (Session.enter nested) n w h where
  called _ htarget hpending :=
    governed_called hnested hw hn htarget (Task.State.status_pending.1 hpending)
  spared _ htarget hspent := governed_spared nested _ hn htarget hspent
  calledOff hpending := governed_calledOff hnested hw hn (Task.State.status_pending.1 hpending)
  unaffected hspent := governed_unaffected nested hn hspent
  answered b hb := by
    rw [governed_answered nested hn hb, Task.State.cancel_called, decide_eq_true_eq]
    exact Iff.rfl
  answers hls := by
    rw [Scheduler.cancel_outcome hgentle hn hls, Task.State.cancel_called]
    rfl

end OneWay

/-- **A handle goes one way, and its views agree.** Take any handles, whose targets and listeners,
and engines, which take no other steps than those that have to do with the scheduler. In a session of
such steps no alarm is raised, whatever the alarm would do: at every depth no world contradicts an
earlier one, and no target is called that had its chance. Every handle goes on, and what has ended
stays as it ended. Whatever state a handle is in, its views agree; and its status alone decides
whether its target is called, how its task ends then, and whether it can be called off. -/
theorem handle_one_way (alarm : Act Unit) (depth : Nat) {list : List Step}
    (hlist : ∀ step ∈ list, step.Schedules) {w : World} (hw : w.Driven) :
    let v := (Session.steps depth list w).2
    Session.trackedSteps alarm depth [] list w = Session.steps depth list w ∧ v.Driven ∧
      (∀ (n : Nat) (h : Handle), w.handles[n]? = some h → ∃ k, v.handles[n]? = some k ∧
        h.Continues k ∧ h.status.mayBecome k.status = true ∧
        (h.status.isTerminal = true → k.status = h.status)) ∧
      (∀ h : Handle, h.ViewsAgree) ∧
      ∀ (u : World) (n : Nat) (h : Handle), u.Driven → u.handles[n]? = some h →
        OneWay.Governed (Session.steps depth) (Session.enter (Session.steps depth)) n u h := by
  intro v
  have hagree {u : World} (hu : u.Driven) : OneWay.Good [] u := ⟨hu, List.forall_mem_nil _⟩
  obtain ⟨heq, hgood, hsettled⟩ := OneWay.steps_agree alarm depth [] list hlist w (hagree hw)
  refine ⟨heq, hgood.driven, fun n h hn => ?_, Handle.viewsAgree, fun u n h hu hn => ?_⟩
  · obtain ⟨k, hk, hcontinues⟩ := hsettled.moved n h hn
    have hstatus : h.status.mayBecome k.status = true := hcontinues.leads.status
    exact ⟨k, hk, hcontinues, hstatus, fun hterminal =>
      Task.Status.eq_of_isTerminal hterminal hstatus⟩
  · have hnested := (OneWay.steps_agree alarm depth []).self
    exact OneWay.governed hnested (Session.steps_gentle depth) (hagree hu) hn

/-- A target tries to call itself off and to run again, and so does a listener afterwards; then the
target is to run once more. -/
theorem handle_one_way_sample :
    let during : List Step := [.cancel none, .pump none, .query none .result]
    let target : Target := .steps (some during) (.ok (.int 7))
    let w := { Sample.world with handles := [Handle.fresh .null (some target)] }
    let list : List Step := [.query none .failure, .listen none [] (some [.pump none, .cancel none]) none,
      .pump none, .pump none, .cancel none]
    let v := (Session.steps 3 list w).2
    Session.trackedSteps (throw Session.tooDeep) 3 [] list w = Session.steps 3 list w ∧
      w.handles.map (·.status) = [.pending] ∧ v.handles.map (·.status) = [.stopped] := by
  intro during target w list v
  have hduring : ∀ step ∈ during, step.Schedules := by
    simp only [during, List.forall_mem_cons, List.not_mem_nil]
    exact ⟨.cancel _, .pump _, .query _ _, nofun⟩
  have hlist : ∀ step ∈ list, step.Schedules := by
    simp only [list, List.forall_mem_cons, List.not_mem_nil]
    refine ⟨.query _ _, .listen _ _ _ ?_, .pump _, .pump _, .cancel _, nofun⟩
    rintro steps ⟨⟩
    simp only [List.forall_mem_cons, List.not_mem_nil]
    exact ⟨.pump _, .cancel _, nofun⟩
  have hw : w.Driven := by
    refine ⟨fun n h hn => ?_, List.forall_mem_nil _⟩
    obtain rfl : h = Handle.fresh .null (some target) :=
      List.mem_singleton.1 (List.mem_of_getElem? hn)
    refine ⟨?_, List.forall_mem_nil _⟩
    rintro t ⟨⟩ steps ⟨⟩
    exact hduring
  exact ⟨(handle_one_way (throw Session.tooDeep) 3 hlist hw).1, rfl, by decide +kernel⟩

end CampaignDesk
