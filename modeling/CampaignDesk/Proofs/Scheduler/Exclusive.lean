import CampaignDesk.Proofs.Sample
import CampaignDesk.Proofs.Scheduler.Handle
import CampaignDesk.Proofs.Session.Nested

/-!
# One scheduler at a time

* `Step.Schedules`: what may be done with the background scheduler of a desk, at any moment.
* `World.Exclusive`: no two schedulers live, and no two calls of an engine run one.
* `watchedSteps`: a session that raises an alarm whenever a step or an engine call, at any depth,
  finds or leaves the world otherwise.
* `at_most_one_scheduler`: **the alarm is never raised**, and a start is refused without effect
  while a scheduler lives.
-/

namespace CampaignDesk

open Act

/-- A step that starts the background scheduler or has to do with its handles. A listener takes
such steps itself. -/
inductive Step.Schedules : Step → Prop
  | askStart (db : Value) : Schedules (.askStart db)
  | askStatus : Schedules .askStatus
  | query (handle : Option Nat) (what : HandleQuery) : Schedules (.query handle what)
  | cancel (handle : Option Nat) : Schedules (.cancel handle)
  | pump (handle : Option Nat) : Schedules (.pump handle)
  | listen (handle : Option Nat) (name : Text) {during : Option (List Step)}
      (failure : Option Failure) (h : ∀ steps, during = some steps → ∀ s ∈ steps, Schedules s) :
      Schedules (.listen handle name during failure)

namespace World

/-- At most one of the engine calls that are going on runs a scheduler, and a handle whose task has
not ended is the desk's own. -/
def Exclusive (w : World) (flights : Nat) : Prop :=
  flights ≤ 1 ∧
    ∀ n (hn : n < w.handles.length), w.handles[n].state.isDone = false → w.scheduler = some n

instance (w : World) (flights : Nat) : Decidable (w.Exclusive flights) :=
  inferInstanceAs (Decidable (_ ∧ _))

/-- The task of a handle runs. -/
def Runs (w : World) (n : Nat) : Prop := ∃ h, w.handles[n]? = some h ∧ h.state = .running

/-- What runs goes on. -/
def Onward (w v : World) : Prop := ∀ n, w.Runs n → v.Runs n

instance : Std.Refl Onward := ⟨fun _ _ h => h⟩

instance : Trans Onward Onward Onward := ⟨fun h h' n hn => h' n (h n hn)⟩

end World

open World

namespace Session

/-- Raises an alarm if the world is not as it should be with so many calls that run a scheduler. -/
def watch (alarm : Act Unit) (flights : Nat) : Act Unit :=
  fun w => if w.Exclusive flights then (.ok (), w) else alarm w

/-- An operation that is watched before and after. -/
def watching {α : Type} (alarm : Act Unit) (flights : Nat) (act : Act α) : Act α := do
  watch alarm flights
  let outcome ← attempt act
  watch alarm flights
  settle outcome

/-- A call of an engine that is watched. If it runs a scheduler it is one call more. -/
def watchedCall (alarm : Act Unit) (nested : Nat → Scheduler.Nested) (flights : Nat) :
    Dispatch.Call := fun e order =>
  let flights := if (order.get .schedulerRun).isTruthy then flights + 1 else flights
  watching alarm flights (enter (nested flights) e order)

/-- Steps that are watched, at every depth, inside of `flights` calls that run a scheduler. -/
def watchedSteps (alarm : Act Unit) : (depth flights : Nat) → Scheduler.Nested
  | 0, _, _ => throw tooDeep
  | depth + 1, flights, list => list.mapM fun step => watching alarm flights
      (answer (watchedCall alarm (watchedSteps alarm depth) flights)
        (watchedSteps alarm depth flights) step)

end Session

namespace Exclusive

/-- A handle as the desk makes and uses them: it runs a scheduler, whoever listens to it takes steps
that have to do with the scheduler, and as long as its task has not ended it is the desk's own. -/
structure Sound (scheduler : Option Nat) (n : Nat) (h : Handle) : Prop where
  alone : h.state.isDone = false → scheduler = some n
  target : ∃ db, h.target = some (.scheduler db)
  listeners : ∀ l ∈ h.listeners, Taking Step.Schedules l.during

/-- The invariant of steps that have to do with the scheduler, inside of `flights` calls that run
one: every handle is sound, and a task runs if there is such a call. -/
structure Good (flights : Nat) (w : World) : Prop where
  sound : ∀ n h, w.handles[n]? = some h → Sound w.scheduler n h
  flying : flights = 0 ∨ flights = 1 ∧ ∃ n, w.Runs n
  script : ∀ a ∈ w.script.actions, Taking Step.Schedules a.during

/-- The handles, the desk's scheduler and what engines will do are the same. -/
structure SameDesk (w v : World) : Prop where
  handles : v.handles = w.handles
  scheduler : v.scheduler = w.scheduler
  actions : v.script.actions = w.script.actions

instance : Std.Refl SameDesk := ⟨fun _ => ⟨rfl, rfl, rfl⟩⟩

instance : Trans SameDesk SameDesk SameDesk :=
  ⟨fun h h' => ⟨h'.handles.trans h.handles, h'.scheduler.trans h.scheduler,
    h'.actions.trans h.actions⟩⟩

theorem sameDesk_incidental : Dispatch.Incidental SameDesk :=
  .of_note (fun _ _ => ⟨rfl, rfl, rfl⟩) fun _ _ => ⟨rfl, rfl, rfl⟩

theorem sameDesk_aside : Aside SameDesk where
  toRemarking := sameDesk_incidental.toRemarking
  call _ _ := ⟨rfl, rfl, rfl⟩
  during _ _ := ⟨rfl, rfl, rfl⟩
  took _ _ _ := ⟨rfl, rfl, rfl⟩
  counted _ _ := ⟨rfl, rfl, rfl⟩
  stored _ _ := ⟨rfl, rfl, rfl⟩
  numbered _ _ _ := ⟨rfl, rfl, rfl⟩

variable {flights n : Nat} {w v : World} {h : Handle}

theorem SameDesk.onward (h : SameDesk w v) : Onward w v := by
  intro n hn
  unfold Runs at hn ⊢
  rw [h.handles]
  exact hn

theorem Good.sameDesk (hw : Good flights w) (h : SameDesk w v) : Good flights v := by
  refine ⟨?_, hw.flying.imp id (And.imp id fun ⟨n, hn⟩ => ⟨n, h.onward n hn⟩), ?_⟩
  · rw [h.handles, h.scheduler]
    exact hw.sound
  · rw [h.actions]
    exact hw.script

theorem sameDesk_keeps (w v : World) (h : SameDesk w v) (hw : Good flights w) :
    Good flights v ∧ Onward w v := ⟨hw.sameDesk h, h.onward⟩

/-- What leaves the desk alone keeps the invariant. -/
theorem agree_of_sameDesk {α : Type} {act : Act α} (h : Within SameDesk act) :
    Agree (Good flights) Onward act act := Agree.of_within h sameDesk_keeps

theorem Good.exclusive (hw : Good flights w) : w.Exclusive flights := by
  refine ⟨?_, fun n hn hlive => (hw.sound n _ (List.getElem?_eq_getElem hn)).alone hlive⟩
  rcases hw.flying with h | ⟨h, -⟩ <;> omega

/-- While a handle waits no task runs. -/
theorem Good.idle (hw : Good flights w) (hn : w.handles[n]? = some h) (hwaits : h.state = .waiting)
    (m : Nat) : ¬ w.Runs m := by
  rintro ⟨k, hk, hruns⟩
  -- both are alive, so both are the desk's own
  have hm := (hw.sound m k hk).alone (by rw [hruns]; rfl)
  have hn' := (hw.sound n h hn).alone (by rw [hwaits]; rfl)
  obtain rfl : m = n := Option.some.inj (hm.symm.trans hn')
  rw [hk] at hn
  cases hn
  rw [hruns] at hwaits
  cases hwaits

/-- A call that runs a scheduler begins. -/
theorem Good.takeOff (hw : Good 0 w) (hn : w.Runs n) : Good 1 w :=
  { hw with flying := .inr ⟨rfl, n, hn⟩ }

/-- A call that runs a scheduler has ended. -/
theorem Good.land (hw : Good flights w) : Good 0 w := { hw with flying := .inl rfl }

theorem onward_modify {g : Handle → Handle}
    (hg : ∀ h, w.handles[n]? = some h → h.state = .running → (g h).state = .running) :
    Onward w { w with handles := w.handles.modify n g } := by
  rintro m ⟨h, hh, hruns⟩
  refine ⟨_, by rw [List.getElem?_modify, hh]; rfl, ?_⟩
  split
  · rename_i hnm
    exact hg h (hnm ▸ hh) hruns
  · exact hruns

/-- One handle changes and stays sound. -/
theorem Good.modify (hw : Good flights w) {g : Handle → Handle}
    (hg : ∀ h, w.handles[n]? = some h → Sound w.scheduler n (g h))
    (hruns : flights = 1 → ∀ h, w.handles[n]? = some h → h.state = .running →
      (g h).state = .running) :
    Good flights { w with handles := w.handles.modify n g } := by
  refine ⟨fun m k hk => ?_, ?_, hw.script⟩
  · obtain ⟨h, hm, rfl | ⟨rfl, rfl⟩⟩ := Scheduler.modified_cases hk
    · exact hw.sound m k hm
    · exact hg h hm
  · rcases hw.flying with hflights | ⟨hflights, m, hm⟩
    · exact .inl hflights
    · exact .inr ⟨hflights, m, onward_modify (hruns hflights) m hm⟩

/-- The task of a handle comes to another state and does not begin to live again. -/
theorem Good.stated (hw : Good flights w) (state : Task.State) (hn : w.handles[n]? = some h)
    (hlive : state.isDone = false → h.state.isDone = false)
    (hruns : flights = 1 → h.state = .running → state = .running) :
    Good flights (Scheduler.stated w n state) := by
  refine hw.modify (fun k hk => ?_) fun hflights k hk => ?_ <;>
    obtain rfl : h = k := Option.some.inj (hn.symm.trans hk)
  · have hsound := hw.sound n h hn
    exact ⟨fun hdone => hsound.alone (hlive hdone), hsound.target, hsound.listeners⟩
  · exact hruns hflights

theorem onward_stated {state : Task.State} (hn : w.handles[n]? = some h)
    (hruns : h.state = .running → state = .running) : Onward w (Scheduler.stated w n state) := by
  refine onward_modify fun k hk => ?_
  obtain rfl : h = k := Option.some.inj (hn.symm.trans hk)
  exact hruns

/-- A handle changes apart from its task. -/
theorem update_agrees {g : Handle → Handle} (hg : Handle.Apart g)
    (hlisteners : ∀ h : Handle, (∀ l ∈ h.listeners, Taking Step.Schedules l.during) →
      ∀ l ∈ (g h).listeners, Taking Step.Schedules l.during) :
    Agree (Good flights) Onward (Scheduler.update n g) (Scheduler.update n g) := by
  intro w hw
  refine ⟨rfl, hw.modify (fun h hn => ?_) fun _ h _ hruns => ?_, onward_modify fun h _ hruns => ?_⟩
  · have hsound := hw.sound n h hn
    refine ⟨?_, ?_, hlisteners h hsound.listeners⟩
    · rw [hg.state]
      exact hsound.alone
    · rw [hg.target]
      exact hsound.target
  all_goals
    rw [hg.state]
    exact hruns

/-- To add and to tell listeners keeps the invariant. -/
theorem attended : Attended Step.Schedules (Good flights) Onward SameDesk where
  toBeside := sameDesk_aside.toBeside
  added _ := fun _ => ⟨rfl, rfl, rfl⟩
  told _ _ := fun _ => ⟨rfl, rfl, rfl⟩
  keeps := sameDesk_keeps
  listeners _ n h hw hn := (hw.sound n h hn).listeners
  update _ _ hg hlisteners := update_agrees hg hlisteners

/-! ## Calling off -/

section nested

variable {nested nested' : Scheduler.Nested} {l : Listener}

/-- Steps inside a call, watched and not watched, do the same. -/
abbrev Watched (flights : Nat) (nested nested' : Scheduler.Nested) : Prop :=
  NestedAgree Step.Schedules (Good flights) Onward nested nested'

theorem cancel_agrees (hnested : Watched flights nested nested') (n : Nat) :
    Agree (Good flights) Onward (Scheduler.cancel nested n) (Scheduler.cancel nested' n) := by
  refine attended.cancel_agrees hnested (fun w n h hw hn hwaits => ?_) n
  -- nothing that runs is touched
  have hidle : h.state ≠ .running := by simp [hwaits]
  have hgood : Good flights (Scheduler.stated w n (.cancelled false)) :=
    hw.stated _ hn nofun fun _ hruns => absurd hruns hidle
  exact ⟨hgood, onward_stated hn fun hruns => absurd hruns hidle⟩

/-! ## Engine calls and background runs -/

/-- Watching changes nothing where the invariant holds. -/
theorem watching_agrees {α : Type} (alarm : Act Unit) {act act' : Act α}
    (h : Agree (Good flights) Onward act act') :
    Agree (Good flights) Onward act (Session.watching alarm flights act') :=
  h.checked fun _ hw => if_pos hw.exclusive

variable {alarm : Act Unit} {watched : Nat → Scheduler.Nested}

/-- The target of a handle of the desk calls the engine with an order to run the scheduler. -/
theorem work_agrees (alarm : Act Unit)
    (hnested : ∀ flights, Watched flights nested (watched flights)) (db : Value) :
    Agree (Good 1) Onward (Scheduler.work nested (Session.enter nested) (.scheduler db))
      (Scheduler.work (watched 0) (Session.watchedCall alarm watched 0) (.scheduler db)) := by
  refine (Session.runScheduler_agrees sameDesk_incidental sameDesk_keeps (fun e d => ?_) db).bind
    fun _ => Agree.pure _
  exact watching_agrees alarm (Session.enter_agrees sameDesk_aside sameDesk_keeps
    (fun _ hw => hw.script) (hnested 1) e _)

/-- **A target runs only while its task does.** It is not begun while another one runs, and when it
has ended nothing runs. -/
theorem pump_agrees (hnested : ∀ flights, Watched flights nested (watched flights))
    (flights n : Nat) :
    Agree (Good flights) Onward (Scheduler.pump nested (Session.enter nested) n)
      (Scheduler.pump (watched flights) (Session.watchedCall alarm watched flights) n) := by
  intro w hw
  rcases hn : w.handles[n]? with _ | h
  · have herror := Scheduler.handle_error hn
    unfold Scheduler.pump
    rw [bind_error herror, bind_error herror]
    exact ⟨rfl, hw, Std.Refl.refl w⟩
  obtain ⟨db, htarget⟩ := (hw.sound n h hn).target
  rw [Scheduler.pump_apply _ _ hn htarget, Scheduler.pump_apply _ _ hn htarget]
  cases hstate : h.state with
  | waiting =>
    -- no call runs a scheduler yet, since a handle that waits is alive
    have hidle := hw.idle hn hstate
    obtain rfl : flights = 0 := hw.flying.resolve_right fun ⟨_, m, hm⟩ => hidle m hm
    have hbegun : Good 1 (Scheduler.stated w n .running) :=
      (hw.stated _ hn (fun _ => by rw [hstate]; rfl) nofun).takeOff ⟨_, Scheduler.stated_ok _ hn, rfl⟩
    obtain ⟨heq, hgood, honward⟩ := work_agrees alarm hnested db _ hbegun
    simp only [Task.State.begin?]
    rw [heq]
    -- nobody else has ended the task meanwhile
    obtain ⟨k, hk, hruns⟩ := honward n ⟨_, Scheduler.stated_ok _ hn, rfl⟩
    rw [Scheduler.finish_apply _ _ hk, Scheduler.finish_apply _ _ hk, hruns]
    obtain ⟨heq', hgood', -⟩ := attended.inform_agrees (hnested 0) n _
      (hgood.land.stated (.finished _) hk nofun nofun)
    exact ⟨heq', hgood', fun m hm => absurd hm (hidle m)⟩
  | running | finished => exact ⟨rfl, hw, Std.Refl.refl w⟩
  | cancelled noticed =>
    cases noticed with
    | true => exact ⟨rfl, hw, Std.Refl.refl w⟩
    | false =>
      -- the target of a task that was called off is not run
      refine ⟨rfl, hw.stated _ hn nofun fun _ hruns => ?_, onward_stated hn fun hruns => ?_⟩
      all_goals
        rw [hstate] at hruns
        cases hruns

end nested

/-! ## Starting -/

/-- The desk makes a handle of its own. -/
def launch (db : Value) : Act Outcome := do
  let n ← Scheduler.start db
  modify fun w => { w with scheduler := some n }
  return .ok (.ofString "Scheduler started") .null

theorem askStart_of_none (db : Value) (hw : w.scheduler = none) :
    Desk.askStart db w = launch db w := by
  simp only [Desk.askStart, bind_apply, get_apply, hw]
  rfl

theorem askStart_of_some (db : Value) (hw : w.scheduler = some n) (hn : w.handles[n]? = some h) :
    Desk.askStart db w =
      if h.state.isDone then launch db w else (.ok Desk.alreadyRunning, w) := by
  simp only [Desk.askStart, bind_apply, get_apply, hw, Scheduler.handle_ok hn]
  cases h.state.isDone <;> rfl

theorem askStart_of_missing (db : Value) (hw : w.scheduler = some n) (hn : w.handles[n]? = none) :
    Desk.askStart db w = (.error Scheduler.noHandle, w) := by
  simp only [Desk.askStart, bind_apply, get_apply, hw, Scheduler.handle_error hn]

/-- A start is refused, or is one more handle. -/
theorem askStart_of_launch {P : World → Prop} {R : World → World → Prop} [Std.Refl R] {db : Value}
    (h : Agree P R (launch db) (launch db)) : Agree P R (Desk.askStart db) (Desk.askStart db) := by
  intro w hw
  rcases hscheduler : w.scheduler with _ | m
  · rw [askStart_of_none db hscheduler]
    exact h w hw
  rcases hm : w.handles[m]? with _ | k
  · rw [askStart_of_missing db hscheduler hm]
    exact ⟨rfl, hw, Std.Refl.refl w⟩
  rw [askStart_of_some db hscheduler hm]
  split
  · exact h w hw
  · exact ⟨rfl, hw, Std.Refl.refl w⟩

/-- The world with one more handle, which is the desk's. -/
def launched (w : World) (db : Value) : World :=
  { w with
    handles := w.handles ++ [Handle.fresh db (some (.scheduler db))]
    scheduler := some w.handles.length }

theorem launched_old (db : Value) (hn : w.handles[n]? = some h) :
    (launched w db).handles[n]? = some h := by
  unfold launched
  rw [List.getElem?_append_left (List.getElem?_eq_some_iff.1 hn).1]
  exact hn

theorem launched_cases {db : Value} (hn : (launched w db).handles[n]? = some h) :
    w.handles[n]? = some h ∨
      n = w.handles.length ∧ h = Handle.fresh db (some (.scheduler db)) := by
  unfold launched at hn
  rcases Nat.lt_or_ge n w.handles.length with hlt | hge
  · rw [List.getElem?_append_left hlt] at hn
    exact .inl hn
  · rw [List.getElem?_append_right hge, List.getElem?_singleton] at hn
    split at hn
    · cases hn
      exact .inr ⟨by omega, rfl⟩
    · cases hn

/-- A start fails and changes nothing, or makes one more handle. -/
theorem launch_cases (db : Value) (w : World) :
    (∃ f, Dispatch.database db w = (.error f, w) ∧ launch db w = (.error f, w)) ∨
      ∃ d v, Dispatch.database db w = (.ok d, w) ∧ SameDesk w v ∧ launch db w =
        (.ok (.ok (.ofString "Scheduler started") .null), launched v d) := by
  have hdatabase : Dispatch.database db w = (Defaults.ifBlank? db Defaults.schedulerDb, w) := rfl
  simp only [launch, Scheduler.start, bind_apply, hdatabase]
  rcases Defaults.ifBlank? db Defaults.schedulerDb with f | d
  · exact .inl ⟨f, rfl, rfl⟩
  · exact .inr ⟨d, _, rfl, sameDesk_incidental.note _ w, rfl⟩

/-- A handle joins the others when none of them is alive, and is the desk's own. -/
theorem launch_good (hw : Good flights w)
    (hdone : ∀ (n : Nat) (h : Handle), w.handles[n]? = some h → h.state.isDone = true) (db : Value) :
    Good flights (launch db w).2 ∧ Onward w (launch db w).2 := by
  have hidle (m : Nat) : ¬ w.Runs m := by
    rintro ⟨k, hk, hruns⟩
    have hk' := hdone m k hk
    rw [hruns] at hk'
    cases hk'
  refine ⟨?_, fun m hm => absurd hm (hidle m)⟩
  obtain rfl : flights = 0 := hw.flying.resolve_right fun ⟨_, m, hm⟩ => hidle m hm
  rcases launch_cases db w with ⟨f, -, hlaunch⟩ | ⟨d, v, -, hsame, hlaunch⟩ <;> rw [hlaunch]
  · exact hw
  have hv : Good 0 v := hw.sameDesk hsame
  refine ⟨fun n h hn => ?_, .inl rfl, hv.script⟩
  -- an old handle, whose task has ended, or the new one, which is the desk's own
  rcases launched_cases hn with hold | ⟨rfl, rfl⟩
  · have hended : h.state.isDone = true := hdone n h (hsame.handles ▸ hold)
    have hsound := hv.sound n h hold
    exact ⟨fun hlive => absurd hended (by simp [hlive]), hsound.target, hsound.listeners⟩
  · exact ⟨fun _ => rfl, ⟨d, rfl⟩, List.forall_mem_nil _⟩

theorem askStart_agrees (db : Value) :
    Agree (Good flights) Onward (Desk.askStart db) (Desk.askStart db) := by
  intro w hw
  refine ⟨rfl, ?_⟩
  -- a handle that is alive would be the desk's own
  have hown (n : Nat) (h : Handle) (hn : w.handles[n]? = some h) :
      h.state.isDone = true ∨ w.scheduler = some n := by
    cases hdone : h.state.isDone with
    | true => exact .inl rfl
    | false => exact .inr ((hw.sound n h hn).alone hdone)
  rcases hscheduler : w.scheduler with _ | m
  · rw [askStart_of_none db hscheduler]
    refine launch_good hw (fun n h hn => (hown n h hn).resolve_right fun hs => ?_) db
    rw [hscheduler] at hs
    cases hs
  rcases hm : w.handles[m]? with _ | k
  · rw [askStart_of_missing db hscheduler hm]
    exact ⟨hw, Std.Refl.refl w⟩
  rw [askStart_of_some db hscheduler hm]
  split
  · rename_i hk
    refine launch_good hw (fun n h hn => ?_) db
    rcases hown n h hn with hdone | hs
    · exact hdone
    · obtain rfl : m = n := Option.some.inj (hscheduler.symm.trans hs)
      rw [hm] at hn
      cases hn
      exact hk
  · exact ⟨hw, Std.Refl.refl w⟩

/-! ## Steps -/

variable {nested : Scheduler.Nested} {watched : Nat → Scheduler.Nested}

/-- **Every step keeps the invariant**, watched or not. -/
theorem perform_agrees (alarm : Act Unit)
    (hnested : ∀ flights, Watched flights nested (watched flights)) {step : Step}
    (hstep : step.Schedules) :
    Agree (Good flights) Onward (Session.perform (Session.enter nested) nested step)
      (Session.perform (Session.watchedCall alarm watched flights) (watched flights) step) := by
  cases hstep with
  | askStart db => exact (askStart_agrees db).bind fun _ => Agree.pure _
  | askStatus => exact agree_of_sameDesk (Session.askStatus_within.bind fun _ => Within.pure _)
  | query handle what =>
    exact agree_of_sameDesk ((Session.handleNumber_within handle).bind fun n =>
      (Session.handle_within n).bind fun _ => Within.settle _)
  | cancel handle =>
    exact (agree_of_sameDesk (Session.handleNumber_within handle)).bind fun n =>
      (cancel_agrees (hnested flights) n).bind fun _ => Agree.pure _
  | pump handle =>
    exact (agree_of_sameDesk (Session.handleNumber_within handle)).bind fun n =>
      (pump_agrees hnested flights n).bind fun _ => Agree.pure _
  | listen handle name failure hduring =>
    exact (agree_of_sameDesk (Session.handleNumber_within handle)).bind fun n =>
      (attended.listen_agrees (hnested flights) (l := ⟨name, _, failure⟩) hduring n).bind fun _ =>
        Agree.pure _

/-- **A watched session does the same as one that is not watched**, at every depth. -/
theorem steps_agree (alarm : Act Unit) (depth flights : Nat) :
    Watched flights (Session.steps depth) (Session.watchedSteps alarm depth flights) := by
  induction depth generalizing flights with
  | zero => exact fun list _ => Agree.of_eq fun _ => rfl
  | succ depth ih =>
    exact fun list hlist => Agree.mapM fun step hstep =>
      watching_agrees alarm (Session.answer_agrees sameDesk_aside sameDesk_keeps
        (perform_agrees alarm ih (hlist step hstep)))

end Exclusive

/-- **At most one live scheduler.** Take a desk without handles, and engines that take no other
steps than those that start the scheduler, ask for its status, listen to handles, call them off and
run their targets. In a session of such steps no alarm is raised, whatever the alarm would do:
before and after every step and every engine call, at every depth, at most one call of an engine
runs a scheduler, and a handle whose task has not ended is the one of the desk. And to start a
scheduler while its handle is alive is refused and changes nothing at all. -/
theorem at_most_one_scheduler (alarm : Act Unit) (depth : Nat) {list : List Step}
    (hlist : ∀ step ∈ list, step.Schedules) {w : World} (hhandles : w.handles = [])
    (hscript : ∀ a ∈ w.script.actions, Taking Step.Schedules a.during) :
    Session.watchedSteps alarm depth 0 list w = Session.steps depth list w ∧
      (Session.steps depth list w).2.Exclusive 0 ∧
      ∀ (v : World) (n : Nat) (h : Handle) (db : Value), v.scheduler = some n →
        v.handles[n]? = some h → h.state.isDone = false →
        Desk.askStart db v = (.ok Desk.alreadyRunning, v) ∧
          Desk.alreadyRunning.success = .bool false ∧
          Desk.alreadyRunning.error = .ofString "Scheduler already running" := by
  have hgood : Exclusive.Good 0 w :=
    ⟨fun n h hn => by simp [hhandles] at hn, .inl rfl, hscript⟩
  obtain ⟨heq, hafter, -⟩ := Exclusive.steps_agree alarm depth 0 list hlist w hgood
  refine ⟨heq, hafter.exclusive, fun v n h db hscheduler hn hlive => ⟨?_, rfl, rfl⟩⟩
  rw [Exclusive.askStart_of_some db hscheduler hn, hlive]
  rfl

/-- An engine tries to start, to call off and to run the scheduler while it runs, and then a
listener starts another one. -/
theorem at_most_one_scheduler_sample :
    let action : Action := ⟨false, some [.askStart .null, .cancel none, .pump none], .ok .null⟩
    let w := { Sample.world with script := ⟨[action], 0⟩ }
    let list : List Step :=
      [.askStart .null, .listen none [] (some [.askStart .null]) none, .pump none, .pump none]
    Session.watchedSteps (throw Session.tooDeep) 3 0 list w = Session.steps 3 list w ∧
      (Session.steps 3 list w).2.Exclusive 0 ∧
      (Session.steps 3 list w).2.handles.map (·.status) = [.stopped, .stopped] := by
  intro action w list
  have hsteps : ∀ step ∈ [Step.askStart .null, .cancel none, .pump none], step.Schedules := by
    simp only [List.forall_mem_cons, List.not_mem_nil]
    exact ⟨.askStart _, .cancel _, .pump _, nofun⟩
  have hlist : ∀ step ∈ list, step.Schedules := by
    simp only [list, List.forall_mem_cons, List.not_mem_nil]
    refine ⟨.askStart _, .listen _ _ _ ?_, .pump _, .pump _, nofun⟩
    rintro steps ⟨⟩ s hs
    cases List.mem_singleton.1 hs
    exact .askStart _
  have hscript : ∀ a ∈ w.script.actions, Taking Step.Schedules a.during := by
    intro a ha
    cases List.mem_singleton.1 ha
    rintro steps ⟨⟩
    exact hsteps
  obtain ⟨heq, hexclusive, -⟩ :=
    at_most_one_scheduler (throw Session.tooDeep) 3 hlist (w := w) rfl hscript
  exact ⟨heq, hexclusive, by decide +kernel⟩

end CampaignDesk
