import CampaignDesk.Proofs.Sample
import CampaignDesk.Proofs.Scheduler.Failures
import CampaignDesk.Proofs.Scheduler.Notices
import CampaignDesk.Proofs.Session.Nested

/-!
# Listeners are told exactly once

* `Step.Concerns`: what may be done with one handle, its task and its listeners, at any moment.
* `Listening.perform_keeps`, `Listening.steps_keep`: every step, and every session, keeps the
  account of who has been told.
* `Listening.Account`, `listeners_told_once`: **the account of a whole session on a fresh handle.**
-/

namespace CampaignDesk

open Act

/-- A step that moves the task of a handle on, asks for it or listens to it. A listener takes such
steps itself, and may fail. -/
inductive Step.Concerns (n : Nat) : Step → Prop
  | query (what : HandleQuery) : Concerns n (.query (some n) what)
  | beginTask : Concerns n (.beginTask (some n))
  | finishTask (outcome : Except Failure Value) : Concerns n (.finishTask (some n) outcome)
  | cancel : Concerns n (.cancel (some n))
  | pump : Concerns n (.pump (some n))
  | listen (name : Text) {during : Option (List Step)} {failure : Option Failure}
      (h : ∀ steps, during = some steps → ∀ s ∈ steps, Concerns n s)
      (hmild : ∀ f, failure = some f → f.kind.isOrdinary = true) :
      Concerns n (.listen (some n) name during failure)

/-- A listener that takes such steps only. -/
structure Listener.Concerns (n : Nat) (l : Listener) : Prop where
  during : Taking (Step.Concerns n) l.during
  mild : l.Mild

/-- A target that takes such steps only. -/
def Target.Concerns (n : Nat) : Target → Prop
  | .scheduler _ => True
  | .steps during _ => Taking (Step.Concerns n) during

namespace Listening

/-- A handle whose listeners and target concern themselves with it alone. Its listeners have been
told only if its task has ended, and then nobody waits any more. -/
structure Sound (n : Nat) (h : Handle) : Prop where
  told : h.notified = true → h.state.isDone = true ∧ h.listeners = []
  listeners : ∀ l ∈ h.listeners, l.Concerns n
  target : ∀ t, h.target = some t → t.Concerns n

/-- The invariant of steps that concern the handle with a number. -/
structure Good (n : Nat) (w : World) : Prop where
  handle : ∃ h, w.handles[n]? = some h ∧ Sound n h
  script : ∀ a ∈ w.script.actions, Taking (Step.Concerns n) a.during

/-- The handles, the notices and what engines will do are the same. -/
structure Quiet (w v : World) : Prop where
  handles : v.handles = w.handles
  notices : v.journal.notices = w.journal.notices
  actions : v.script.actions = w.script.actions

instance : Std.Refl Quiet := ⟨fun _ => ⟨rfl, rfl, rfl⟩⟩

instance : Trans Quiet Quiet Quiet :=
  ⟨fun h h' => ⟨h'.handles.trans h.handles, h'.notices.trans h.notices,
    h'.actions.trans h.actions⟩⟩

variable {n : Nat} {w v : World} {h h' : Handle} {l : Listener}

theorem record_quiet {e : Entry} (he : e.notice? = none) : Within Quiet (record e) := by
  intro w
  refine ⟨rfl, ?_, rfl⟩
  simp [record, Journal.notices, he]

theorem quiet_incidental : Dispatch.Incidental Quiet :=
  .of_note (fun _ => (record_quiet rfl).bind fun _ _ => ⟨rfl, rfl, rfl⟩) fun _ _ => ⟨rfl, rfl, rfl⟩

theorem quiet_aside : Aside Quiet where
  toRemarking := quiet_incidental.toRemarking
  call _ := record_quiet rfl
  during _ := record_quiet rfl
  took _ _ := record_quiet rfl
  counted _ _ := ⟨rfl, rfl, rfl⟩
  stored _ _ := ⟨rfl, rfl, rfl⟩
  numbered _ _ _ := ⟨rfl, rfl, rfl⟩

theorem Good.of_same (hw : Good n w) (hhandles : v.handles = w.handles)
    (hactions : v.script.actions = w.script.actions) : Good n v := by
  refine ⟨?_, ?_⟩
  · rw [hhandles]
    exact hw.handle
  · rw [hactions]
    exact hw.script

theorem Good.sound (hw : Good n w) (hn : w.handles[n]? = some h) : Sound n h := by
  obtain ⟨k, hk, hsound⟩ := hw.handle
  obtain rfl : h = k := Option.some.inj (hn.symm.trans hk)
  exact hsound

theorem Sound.waiting (hsound : Sound n h) (hlive : h.state.isDone = false) :
    h.notified = false := by
  cases hnotified : h.notified with
  | false => rfl
  | true => rw [(hsound.told hnotified).1] at hlive; cases hlive

/-- The account of one handle. -/
theorem advance_of (es : List Notice) (hn : w.handles[n]? = some h) (hn' : v.handles[n]? = some h')
    (hes : v.journal.notices = w.journal.notices ++ es) (hfollows : Follows h h' es) :
    Advance n w v := by
  intro k hk
  obtain rfl : h = k := Option.some.inj (hn.symm.trans hk)
  exact ⟨h', es, hn', hes, hfollows⟩

theorem quiet_keeps (w v : World) (h : Quiet w v) (hw : Good n w) : Good n v ∧ Advance n w v := by
  refine ⟨hw.of_same h.handles h.actions, fun k hk => ⟨k, [], ?_, ?_, .refl k⟩⟩
  · rw [h.handles]
    exact hk
  · rw [h.notices, List.append_nil]

/-- An operation that keeps the invariant and the account. -/
abbrev Keeps {α : Type} (n : Nat) (act : Act α) : Prop := Agree (Good n) (Advance n) act act

/-- What has nothing to do with handles keeps the account. -/
theorem keeps_of_quiet {α : Type} {act : Act α} (h : Within Quiet act) : Keeps n act :=
  Agree.of_within h quiet_keeps

/-- The handle changes. -/
theorem Good.modify (hw : Good n w) (hn : w.handles[n]? = some h) {g : Handle → Handle}
    (hsound : Sound n (g h)) : Good n { w with handles := w.handles.modify n g } :=
  ⟨⟨g h, by simp [hn], hsound⟩, hw.script⟩

/-- The task of the handle comes to another state. -/
theorem Good.stated (hw : Good n w) (hn : w.handles[n]? = some h) {state : Task.State}
    (hdone : h.notified = true → state.isDone = true) : Good n (Scheduler.stated w n state) := by
  have hsound := hw.sound hn
  exact hw.modify hn ⟨fun hnotified => ⟨hdone hnotified, (hsound.told hnotified).2⟩,
    hsound.listeners, hsound.target⟩

/-! ## Telling -/

section nested

variable {nested : Scheduler.Nested}

/-- Steps inside a call keep the account. -/
abbrev Kept (n : Nat) (nested : Scheduler.Nested) : Prop :=
  NestedAgree (Step.Concerns n) (Good n) (Advance n) nested nested

/-- Once a listener has been told the account is kept, however it responds. -/
theorem heed_keeps (hnested : Kept n nested) (hl : l.Concerns n) :
    Keeps n (attempt (Scheduler.respond nested l) >>= Scheduler.excuse) :=
  (Session.respond_agrees quiet_aside.toBeside quiet_keeps hnested hl.during).attempt.bind
    fun outcome => keeps_of_quiet (Session.excuse_within quiet_aside.toBeside outcome)

/-- From `w` to `v` those with the names are told in order of the end of the handle. -/
def Served (n : Nat) (names : List Text) (w v : World) : Prop :=
  ∀ h, w.handles[n]? = some h → h.notified = true → ∃ h' later, v.handles[n]? = some h' ∧
    h'.notified = true ∧ h'.status = h.status ∧
    v.journal.notices = w.journal.notices ++ later ∧ Informed h.status names later

theorem Served.trans {u : World} {names more : List Text} (h : Served n names w v)
    (h' : Served n more v u) : Served n (names ++ more) w u := by
  intro k hk hnotified
  obtain ⟨k', later, hk', hnotified', hstatus, hlater, hinformed⟩ := h k hk hnotified
  obtain ⟨k'', rest, hk'', hnotified'', hstatus', hrest, hinformed'⟩ := h' k' hk' hnotified'
  rw [hstatus] at hinformed'
  refine ⟨k'', later ++ rest, hk'', hnotified'', hstatus'.trans hstatus, ?_,
    hinformed.append hinformed'⟩
  rw [hrest, hlater, List.append_assoc]

/-- After the end whoever is added is told. -/
theorem served_of_advance (h : Advance n w v) : Served n [] w v := by
  intro k hk hnotified
  obtain ⟨k', later, hk', hlater, hfollows⟩ := h k hk
  cases hfollows.progress with
  | waits _ before => rw [hnotified] at before; cases before
  | ends _ before => rw [hnotified] at before; cases before
  | ended _ after same informed => exact ⟨k', later, hk', after, same, hlater, informed⟩

theorem tell_served (hnested : Kept n nested) (hl : l.Concerns n) (hw : Good n w) :
    Good n (Scheduler.tell nested n l w).2 ∧
      Served n [l.name] w (Scheduler.tell nested n l w).2 := by
  obtain ⟨h, hn, -⟩ := hw.handle
  rw [Scheduler.tell_apply nested l hn]
  obtain ⟨-, hgood, hadvance⟩ :=
    heed_keeps hnested hl (Scheduler.noted w (.told l.name h.status)) (hw.of_same rfl rfl)
  refine ⟨hgood, fun k hk hnotified => ?_⟩
  obtain rfl : h = k := Option.some.inj (hn.symm.trans hk)
  obtain ⟨h', later, hn', hnotified', hstatus, hlater, hinformed⟩ :=
    served_of_advance hadvance h hn hnotified
  refine ⟨h', .told l.name h.status :: later, hn', hnotified', hstatus, ?_, .next hinformed⟩
  rw [hlater, notices_noted, List.append_assoc]
  rfl

theorem forM_tell_served (hnested : Kept n nested) (hgentle : Session.Gentle nested)
    {ls : List Listener} (hls : ∀ l ∈ ls, l.Concerns n) (hw : Good n w) :
    Good n (ls.forM (Scheduler.tell nested n) w).2 ∧
      Served n (ls.map (·.name)) w (ls.forM (Scheduler.tell nested n) w).2 := by
  induction ls generalizing w with
  | nil => exact ⟨hw, served_of_advance (Std.Refl.refl w)⟩
  | cons l ls ih =>
    have hl := hls l List.mem_cons_self
    obtain ⟨hgood, hserved⟩ := tell_served hnested hl hw
    obtain ⟨hgood', hserved'⟩ := ih (fun m hm => hls m (List.mem_cons_of_mem l hm)) hgood
    have hok : (Scheduler.tell nested n l w).1 = .ok () := Scheduler.tell_ok hgentle hl.mild
    change Good n ((Scheduler.tell nested n l >>= fun _ => ls.forM (Scheduler.tell nested n)) w).2 ∧
      Served n ([l.name] ++ ls.map (·.name)) w
        ((Scheduler.tell nested n l >>= fun _ => ls.forM (Scheduler.tell nested n)) w).2
    rw [bind_ok (Prod.ext hok rfl)]
    exact ⟨hgood', hserved.trans hserved'⟩

/-- When a task has ended all listeners are told, and nobody waits any more. -/
theorem inform_served (hnested : Kept n nested) (hgentle : Session.Gentle nested) (hw : Good n w)
    (hn : w.handles[n]? = some h) (hdone : h.state.isDone = true) :
    Good n (Scheduler.inform nested n w).2 ∧ ∃ h' later,
      (Scheduler.inform nested n w).2.handles[n]? = some h' ∧ h'.notified = true ∧
      h'.status = h.status ∧
      (Scheduler.inform nested n w).2.journal.notices = w.journal.notices ++ later ∧
      Informed h.status h.names later := by
  have hlog : Quiet w (Scheduler.logEnd h w).2 := Session.logEnd_within quiet_aside.toBeside h w
  have hn' := (congrArg (·[n]?) hlog.handles).trans hn
  have hsound := hw.sound hn
  unfold Scheduler.inform
  rw [bind_ok (Scheduler.handle_ok hn), bind_ok (Scheduler.logEnd_ok h w),
    bind_ok (Scheduler.update_apply _ _ _)]
  -- from now on listeners are told as soon as they are added
  have hsound' : Sound n { h with notified := true, listeners := [] } :=
    ⟨fun _ => ⟨hdone, rfl⟩, List.forall_mem_nil _, hsound.target⟩
  have hgood := (hw.of_same hlog.handles hlog.actions).modify hn'
    (g := fun h => { h with notified := true, listeners := [] }) hsound'
  obtain ⟨hgood', hserved⟩ := forM_tell_served hnested hgentle hsound.listeners hgood
  obtain ⟨h', later, hh', hnotified, hstatus, hlater, hinformed⟩ :=
    hserved { h with notified := true, listeners := [] } (by simp [hn']) rfl
  exact ⟨hgood', h', later, hh', hnotified, hstatus, hlog.notices ▸ hlater, hinformed⟩

/-- The task ends, and the account says so. -/
theorem ends_keeps (hnested : Kept n nested) (hgentle : Session.Gentle nested) (hw : Good n w)
    (hn : w.handles[n]? = some h) (hlive : h.state.isDone = false) (state : Task.State)
    (hdone : state.isDone = true) :
    Good n (Scheduler.inform nested n (Scheduler.stated w n state)).2 ∧
      Advance n w (Scheduler.inform nested n (Scheduler.stated w n state)).2 := by
  obtain ⟨hgood, h', later, hn', hnotified, hstatus, hlater, hinformed⟩ :=
    inform_served hnested hgentle (hw.stated hn fun _ => hdone) (Scheduler.stated_ok _ hn) hdone
  refine ⟨hgood, advance_of later hn hn' hlater ⟨?_, ?_, fun _ => ?_⟩⟩
  · have hwaiting := (hw.sound hn).waiting hlive
    refine Progress.ends [] hwaiting hnotified ?_
    rw [hstatus, List.append_nil]
    exact hinformed
  · intro h
    rw [hlive] at h
    cases h
  · rw [hnotified, ((hgood.sound hn').told hnotified).1]

/-- Before the end a listener joins those who wait. -/
theorem gather_keeps (hl : l.Concerns n) (hw : Good n w) (hn : w.handles[n]? = some h)
    (hwaiting : h.notified = false) :
    let v := { Scheduler.noted w (.added l.name) with
      handles := w.handles.modify n fun h => { h with listeners := h.listeners ++ [l] } }
    Good n v ∧ Advance n w v := by
  intro v
  have hsound := hw.sound hn
  have hn' : v.handles[n]? = some { h with listeners := h.listeners ++ [l] } := by simp [v, hn]
  have hes : v.journal.notices = w.journal.notices ++ [.added l.name] :=
    notices_noted w (.added l.name)
  have hadded : Good n (Scheduler.noted w (.added l.name)) := hw.of_same rfl rfl
  have hfollows : Follows h { h with listeners := h.listeners ++ [l] } [.added l.name] :=
    ⟨.waits [l.name] hwaiting hwaiting (by simp [Handle.names]), fun hdone => ⟨hdone, rfl, rfl⟩, id⟩
  refine ⟨hadded.modify hn ⟨fun hnotified => ?_, fun m hm => ?_, hsound.target⟩,
    advance_of _ hn hn' hes hfollows⟩
  · rw [hwaiting] at hnotified
    cases hnotified
  · rcases List.mem_append.1 hm with hm | hm
    · exact hsound.listeners m hm
    · cases List.mem_singleton.1 hm
      exact hl

/-- After the end a listener is told right away. -/
theorem late_keeps (hnested : Kept n nested) (hl : l.Concerns n) (hw : Good n w)
    (hn : w.handles[n]? = some h) (hnotified : h.notified = true) :
    let v := (Scheduler.tell nested n l (Scheduler.noted w (.added l.name))).2
    Good n v ∧ Advance n w v := by
  intro v
  let told := Scheduler.noted (Scheduler.noted w (.added l.name)) (.told l.name h.status)
  have htell : v = ((attempt (Scheduler.respond nested l) >>= Scheduler.excuse) told).2 :=
    congrArg Prod.snd (Scheduler.tell_apply nested l hn)
  have htold : told.journal.notices =
      w.journal.notices ++ [.added l.name] ++ [.told l.name h.status] := by
    rw [notices_noted, notices_noted]
    rfl
  obtain ⟨-, hgood, hadvance⟩ := heed_keeps hnested hl told (hw.of_same rfl rfl)
  rw [← htell] at hgood hadvance
  -- what follows in the journal are others that came late
  obtain ⟨h', later, hn', hnotified', hstatus, hlater, hinformed⟩ :=
    served_of_advance hadvance h hn hnotified
  have hdone' := ((hgood.sound hn').told hnotified').1
  refine ⟨hgood, advance_of (.added l.name :: .told l.name h.status :: later) hn hn' ?_
    ⟨.ended hnotified hnotified' hstatus (.late hinformed), fun _ => ⟨hdone', hstatus, ?_⟩,
      fun _ => ?_⟩⟩
  · rw [hlater, htold, List.append_assoc, List.append_assoc]
    rfl
  · rw [hnotified', hnotified]
  · rw [hdone', hnotified']

theorem listen_keeps (hnested : Kept n nested) (hl : l.Concerns n) :
    Keeps n (Scheduler.listen nested n l) := by
  intro w hw
  refine ⟨rfl, ?_⟩
  obtain ⟨h, hn, -⟩ := hw.handle
  rw [Scheduler.listen_apply nested l hn]
  cases hnotified : h.notified with
  | true => exact late_keeps hnested hl hw hn hnotified
  | false => exact gather_keeps hl hw hn hnotified

/-- The task moves on without coming to its end. -/
theorem stated_keeps (hw : Good n w) (hn : w.handles[n]? = some h) {state : Task.State}
    (hsame : state.isDone = h.state.isDone)
    (hstatus : h.state.isDone = true → state.status = h.state.status) :
    Good n (Scheduler.stated w n state) ∧ Advance n w (Scheduler.stated w n state) := by
  have htold := (hw.sound hn).told
  refine ⟨hw.stated hn fun hnotified => hsame.trans (htold hnotified).1,
    advance_of [] hn (Scheduler.stated_ok _ hn) (List.append_nil _).symm
      ⟨?_, fun hdone => ?_, fun h => ?_⟩⟩
  · rcases Bool.eq_false_or_eq_true h.notified with hnotified | hnotified
    · exact .ended hnotified hnotified (hstatus (htold hnotified).1) .done
    · exact .waits [] hnotified hnotified (List.append_nil _).symm
  · exact ⟨hsame.trans hdone, hstatus hdone, rfl⟩
  · exact hsame.trans h

theorem begin_keeps (n : Nat) : Keeps n (Scheduler.begin n) := by
  intro w hw
  refine ⟨rfl, ?_⟩
  obtain ⟨h, hn, -⟩ := hw.handle
  rw [Scheduler.begin_apply hn]
  cases hstate : h.state with
  | waiting =>
    refine stated_keeps hw hn (by rw [hstate]; rfl) fun hdone => ?_
    rw [hstate] at hdone
    cases hdone
  | cancelled noticed =>
    cases noticed with
    | true => exact ⟨hw, Std.Refl.refl w⟩
    | false => exact stated_keeps hw hn (by rw [hstate]; rfl) fun _ => by rw [hstate]; rfl
  | running | finished => exact ⟨hw, Std.Refl.refl w⟩

/-- **A task ends but once**, and then its listeners are told. -/
theorem finish_keeps (hnested : Kept n nested) (hgentle : Session.Gentle nested)
    (outcome : Except Failure Value) : Keeps n (Scheduler.finish nested n outcome) := by
  intro w hw
  refine ⟨rfl, ?_⟩
  obtain ⟨h, hn, -⟩ := hw.handle
  rw [Scheduler.finish_apply nested outcome hn]
  cases hstate : h.state with
  | waiting | running => exact ends_keeps hnested hgentle hw hn (by rw [hstate]; rfl) _ rfl
  | cancelled | finished => exact ⟨hw, Std.Refl.refl w⟩

theorem cancel_keeps (hnested : Kept n nested) (hgentle : Session.Gentle nested) :
    Keeps n (Scheduler.cancel nested n) := by
  intro w hw
  refine ⟨rfl, ?_⟩
  obtain ⟨h, hn, -⟩ := hw.handle
  rw [Scheduler.cancel_apply nested hn]
  cases hstate : h.state with
  | waiting =>
    obtain ⟨hgood, hadvance⟩ := ends_keeps hnested hgentle hw hn
      (by rw [hstate]; rfl) (.cancelled false) rfl
    simp only [Task.State.cancel, bind_apply]
    rcases hinform : Scheduler.inform nested n _ with ⟨_ | _, v⟩ <;>
      rw [hinform] at hgood hadvance <;> exact ⟨hgood, hadvance⟩
  | running | cancelled | finished => exact ⟨hw, Std.Refl.refl w⟩

theorem work_keeps (hnested : Kept n nested) {target : Target} (htarget : target.Concerns n) :
    Keeps n (Scheduler.work nested (Session.enter nested) target) := by
  cases target with
  | scheduler db =>
    refine (Session.runScheduler_agrees quiet_incidental quiet_keeps (fun e d => ?_) db).bind
      fun _ => Agree.pure _
    exact Session.enter_agrees quiet_aside quiet_keeps (fun _ hw => hw.script) hnested e _
  | steps during outcome =>
    exact (Session.take_agrees quiet_aside.toBeside quiet_keeps hnested htarget "target").bind
      fun _ => Agree.settle _

theorem pump_keeps (hnested : Kept n nested) (hgentle : Session.Gentle nested) :
    Keeps n (Scheduler.pump nested (Session.enter nested) n) := by
  intro w hw
  obtain ⟨h, hn, hsound⟩ := hw.handle
  unfold Scheduler.pump
  rw [bind_ok (Scheduler.handle_ok hn)]
  cases htarget : h.target with
  | none => exact ⟨rfl, hw, Std.Refl.refl w⟩
  | some target =>
    -- whatever the target does, it is tried to end the task after it
    refine (begin_keeps n).bind (fun go => ?_) w hw
    cases go with
    | false => exact Agree.pure _
    | true =>
      exact (work_keeps hnested (hsound.target target htarget)).attempt.bind fun outcome =>
        finish_keeps hnested hgentle outcome

/-- **Every step keeps the account.** -/
theorem perform_keeps (hnested : Kept n nested) (hgentle : Session.Gentle nested) {step : Step}
    (hstep : step.Concerns n) :
    Keeps n (Session.perform (Session.enter nested) nested step) := by
  cases hstep with
  | query what =>
    exact (keeps_of_quiet (Session.handle_within n)).bind fun _ => Agree.settle _
  | beginTask => exact (begin_keeps n).bind fun _ => Agree.pure _
  | finishTask outcome => exact (finish_keeps hnested hgentle outcome).bind fun _ => Agree.pure _
  | cancel => exact (cancel_keeps hnested hgentle).bind fun _ => Agree.pure _
  | pump => exact (pump_keeps hnested hgentle).bind fun _ => Agree.pure _
  | listen name hduring hmild =>
    exact (listen_keeps hnested (l := ⟨name, _, _⟩) ⟨hduring, hmild⟩).bind fun _ => Agree.pure _

end nested

/-- **A session keeps the account**, at every depth. -/
theorem steps_keep (n depth : Nat) : Kept n (Session.steps depth) := by
  induction depth with
  | zero => exact fun list _ => Agree.of_eq fun _ => rfl
  | succ depth ih =>
    exact fun list hlist => Agree.mapM fun step hstep =>
      Session.answer_agrees quiet_aside quiet_keeps
        (perform_keeps ih (Session.steps_gentle depth) (hlist step hstep))

/-- The account of a handle from the time when it was fresh. Those in `early` were added, in this
order, before its task ended; the notices in `late` are those that came then and afterwards. As long
as the task has not ended there are none. Once it has, everybody has been told as often as added, and
has seen the status that the handle still has. -/
structure Account (n : Nat) (w v : World) (h : Handle) (early : List Text) (late : List Notice) :
    Prop where
  handle : v.handles[n]? = some h
  notices : v.journal.notices = w.journal.notices ++ (early.map .added ++ late)
  before : h.state.isDone = false → h.names = early ∧ late = []
  after : h.state.isDone = true → h.listeners = [] ∧
    h.status ∈ [.cancelled, .failed, .stopped] ∧ Informed h.status early late ∧
    ∀ who, late.count (.told who h.status) = early.count who + late.count (.added who) ∧
      ∀ seen, .told who seen ∈ late → seen = h.status

theorem status_mem (hdone : h.state.isDone = true) :
    h.status ∈ [Task.Status.cancelled, .failed, .stopped] := by
  unfold Handle.status
  cases hstate : h.state with
  | waiting | running => rw [hstate] at hdone; cases hdone
  | cancelled => exact List.mem_cons_self
  | finished outcome => cases outcome <;> simp [Task.State.status]

variable {db : Value} {target : Option Target}

theorem account_of_advance (hn : w.handles[n]? = some (Handle.fresh db target))
    (hadvance : Advance n w v) (hv : Good n v) : ∃ h early late, Account n w v h early late := by
  obtain ⟨h, es, hn', hes, hfollows⟩ := hadvance _ hn
  have hsettled : h.state.isDone = h.notified := hfollows.settled rfl
  cases hfollows.progress with
  | waits names _ after gathered =>
    refine ⟨h, names, [], hn', by rw [hes, List.append_nil], fun _ => ⟨gathered, rfl⟩,
      fun hdone => ?_⟩
    rw [hsettled, after] at hdone
    cases hdone
  | @ends names later _ after informed =>
    refine ⟨h, names, later, hn', hes, fun hlive => ?_, fun hdone => ?_⟩
    · rw [hsettled, after] at hlive
      cases hlive
    · exact ⟨((hv.sound hn').told after).2, status_mem hdone, informed,
        fun who => ⟨informed.once who, fun _ => informed.status_eq⟩⟩
  -- a fresh handle has not told anybody
  | ended before => cases before

/-- Others may do what they like between the end of a task and the telling. -/
theorem account_of_gap {nested : Scheduler.Nested} (hnested : Kept n nested)
    (hgentle : Session.Gentle nested) (hn : w.handles[n]? = some (Handle.fresh db target))
    (hadvance : Advance n w v) (hv : Good n v) (hh : v.handles[n]? = some h)
    (hlive : h.state.isDone = false) {state : Task.State} (hdone : state.isDone = true)
    {meanwhile : List Step} (hmeanwhile : ∀ step ∈ meanwhile, step.Concerns n) :
    ∃ h' early late, Account n w
      (Scheduler.inform nested n (nested meanwhile (Scheduler.stated v n state)).2).2 h' early late ∧
        h'.status = state.status := by
  obtain ⟨k, es, hk, hes, hfollows⟩ := hadvance _ hn
  obtain rfl : h = k := Option.some.inj (hh.symm.trans hk)
  have hwaiting : h.notified = false := (hv.sound hh).waiting hlive
  have hstated : Good n (Scheduler.stated v n state) := hv.stated hh fun hnotified => by
    rw [hwaiting] at hnotified
    cases hnotified
  obtain ⟨-, hgood, hadvance'⟩ := hnested meanwhile hmeanwhile _ hstated
  obtain ⟨h₂, es₂, hh₂, hes₂, hfollows₂⟩ := hadvance' _ (Scheduler.stated_ok _ hh)
  obtain ⟨hdone₂, hstatus₂, hnotified₂⟩ := hfollows₂.lasting hdone
  obtain ⟨hgood', h₃, later, hh₃, hnotified₃, hstatus₃, hlater, hinformed⟩ :=
    inform_served hnested hgentle hgood hh₂ hdone₂
  have hdone₃ := ((hgood'.sound hh₃).told hnotified₃).1
  -- before and after the end listeners have only gathered
  obtain ⟨names, rfl, hnames⟩ := hfollows.progress.gathered hwaiting
  obtain ⟨more, rfl, hmore⟩ := hfollows₂.progress.gathered (hnotified₂.trans hwaiting)
  have hall : h₂.names = names ++ more := by
    rw [hmore]
    exact congrArg (· ++ more) hnames
  rw [← hstatus₃, hall] at hinformed
  refine ⟨h₃, names ++ more, later, ⟨hh₃, ?_, fun hlive₃ => ?_, fun _ => ?_⟩, ?_⟩
  · rw [hlater, hes₂]
    change v.journal.notices ++ _ ++ _ = _
    rw [hes, List.map_append]
    simp only [List.append_assoc]
  · rw [hdone₃] at hlive₃
    cases hlive₃
  · exact ⟨((hgood'.sound hh₃).told hnotified₃).2, status_mem hdone₃, hinformed,
      fun who => ⟨hinformed.once who, fun _ => hinformed.status_eq⟩⟩
  · rw [hstatus₃, hstatus₂]
    rfl

end Listening

/-- **Listeners are told exactly once.** Take a handle on a fresh task and a session of steps that
concern it, in any order and at any depth: its listeners, its target and the engine may take such
steps as well, and listeners may fail. Then there is an account of who was told what. Nobody is told
before the task has ended; by then all who were added are told in order, and whoever is added later
is told right away, and all see the status with which the task has ended. Whether a call fails does
not depend on the listeners. And if others come in between the end of the task and the telling, the
account is the same. -/
theorem listeners_told_once (n depth : Nat) {list : List Step}
    (hlist : ∀ step ∈ list, step.Concerns n) {w : World} {db : Value} {target : Option Target}
    (hn : w.handles[n]? = some (Handle.fresh db target))
    (htarget : ∀ t, target = some t → t.Concerns n)
    (hscript : ∀ a ∈ w.script.actions, Taking (Step.Concerns n) a.during) :
    let v := (Session.steps depth list w).2
    (∃ h early late, Listening.Account n w v h early late) ∧
      (∀ (call : Dispatch.Call) (u : World) (h : Handle), u.handles[n]? = some h →
        (∀ l ∈ h.listeners, l.Mild) → Scheduler.Unconcerned (Session.steps depth) call n u h) ∧
      ∀ h state meanwhile, v.handles[n]? = some h → h.state.isDone = false → state.isDone = true →
        (∀ step ∈ meanwhile, step.Concerns n) →
        let u := (Session.steps depth meanwhile (Scheduler.stated v n state)).2
        ∃ h' early late, h'.status = state.status ∧
          Listening.Account n w (Scheduler.inform (Session.steps depth) n u).2 h' early late := by
  have hgentle := Session.steps_gentle depth
  have hkept := Listening.steps_keep n depth
  -- a fresh handle has no listeners yet
  have hgood : Listening.Good n w := ⟨⟨_, hn, ⟨nofun, List.forall_mem_nil _, htarget⟩⟩, hscript⟩
  obtain ⟨-, hv, hadvance⟩ := hkept list hlist w hgood
  refine ⟨Listening.account_of_advance hn hadvance hv,
    fun call u h hh hls => Scheduler.unconcerned hgentle call hh hls,
    fun h state meanwhile hh hlive hdone hmeanwhile => ?_⟩
  obtain ⟨h', early, late, haccount, hstatus⟩ :=
    Listening.account_of_gap hkept hgentle hn hadvance hv hh hlive hdone hmeanwhile
  exact ⟨h', early, late, hstatus, haccount⟩

/-- A listener adds another one and fails, a second one waits behind it, and a third one comes
late. -/
theorem listeners_told_once_sample :
    let failure : Failure := .new .valueError "listener bug"
    let w := { Sample.world with handles := [Handle.fresh .null none] }
    let list : List Step :=
      [.listen (some 0) "a" (some [.listen (some 0) "b" none (some failure)]) (some failure),
        .listen (some 0) "c" none none, .finishTask (some 0) (.ok .null),
        .listen (some 0) "d" none none]
    let v := (Session.steps 2 list w).2
    (∃ h early late, Listening.Account 0 w v h early late) ∧
      v.journal.notices = [.added "a", .added "c", .told "a" .stopped, .added "b",
        .told "b" .stopped, .told "c" .stopped, .added "d", .told "d" .stopped] := by
  intro failure w list v
  have hmild : ∀ f, some failure = some f → f.kind.isOrdinary = true := by
    rintro f ⟨⟩
    rfl
  have hquiet : ∀ f, (none : Option Failure) = some f → f.kind.isOrdinary = true := by
    rintro f ⟨⟩
  have hnested : ∀ step ∈ [Step.listen (some 0) "b" none (some failure)], step.Concerns 0 := by
    intro step hstep
    cases List.mem_singleton.1 hstep
    exact .listen "b" nofun hmild
  have hlist : ∀ step ∈ list, step.Concerns 0 := by
    simp only [list, List.forall_mem_cons, List.not_mem_nil]
    refine ⟨.listen "a" ?_ hmild, .listen "c" nofun hquiet, .finishTask _,
      .listen "d" nofun hquiet, nofun⟩
    rintro steps ⟨⟩
    exact hnested
  have htarget : ∀ t, (none : Option Target) = some t → t.Concerns 0 := by
    rintro t ⟨⟩
  exact ⟨(listeners_told_once 0 2 hlist (w := w) rfl htarget (List.forall_mem_nil _)).1,
    by decide +kernel⟩

end CampaignDesk
