import CampaignDesk.Proofs.Dispatch.Blind
import CampaignDesk.Proofs.Dispatch.Leaving
import CampaignDesk.Proofs.Order.Refusals
import CampaignDesk.Proofs.Session.Handles

/-!
# A background run is a run in the foreground

The target of a background run is a run of the scheduler. It is the same run, at the time at which the
target is run: the engine is found then, is asked for the same, and ends the task as it would end a run
in the foreground.

* `Dispatch.runScheduler_eq`: to fill in the default for the database twice is to fill it in once.
* `Scheduler.begun`: the world with a task that runs. Only who looks at the handle sees the difference.
* `Handle.Holds`: what a handle answers once its task has ended as a run of the scheduler.
* `Scheduler.pump_run`, `Scheduler.pump_ended`: the target is the run, and then the task ends.
* `Scheduler.Started`: a start makes a handle and calls no engine.
* `background_is_foreground`: **a background run is a run in the foreground**, of its own time.
-/

namespace CampaignDesk

open Act World

/-! ## The database -/

/-- What is left when a default has been filled in needs no default. -/
theorem Defaults.ifBlank?_idem {v default d : Value} (hdefault : isBlank? default = .ok false)
    (h : ifBlank? v default = .ok d) : ifBlank? d default = .ok d := by
  rcases hblank : isBlank? v with f | _ | _ <;>
    simp only [ifBlank?, hblank, bind, Except.bind, pure, Except.pure] at h <;> cases h
  · simp [ifBlank?, hblank, bind, Except.bind, pure, Except.pure]
  · simp [ifBlank?, hdefault, bind, Except.bind, pure, Except.pure]

namespace Dispatch

variable {call : Call} {db d : Value} {w : World}

/-- A run on the database that a value means is a run on that value. -/
theorem runScheduler_eq (h : Defaults.ifBlank? db Defaults.schedulerDb = .ok d) (call : Call) :
    runScheduler call d = runScheduler call db := by
  funext w
  have hd : Defaults.ifBlank? d Defaults.schedulerDb = .ok d := Defaults.ifBlank?_idem rfl h
  rw [runScheduler_apply hd, runScheduler_apply h]

/-- How the engine is found and asked to run the scheduler on a database. -/
def asking (call : Call) (d : Value) : Act Value := do call (← announce "scheduler") (schedulerOrder d)

theorem runScheduler_asking (h : Defaults.ifBlank? db Defaults.schedulerDb = .ok d) (call : Call)
    (w : World) : runScheduler call db w =
      (do let _ ← closing "scheduler" (asking call d w).1 : Act Unit) (asking call d w).2 := by
  rw [runScheduler_apply h, callEngine_bind]
  rfl

/-- A run ends as the engine does, with what is passed on of its failure. -/
theorem runScheduler_outcome (h : Defaults.ifBlank? db Defaults.schedulerDb = .ok d) (call : Call)
    (w : World) :
    (runScheduler call db w).1 = ((asking call d w).1.mapError passedOn).map fun _ => () := by
  rw [runScheduler_asking h, ← closing_outcome "scheduler" (asking call d w).1 (asking call d w).2,
    bind_apply]
  rcases closing "scheduler" (asking call d w).1 (asking call d w).2 with ⟨f | returned, v⟩ <;> rfl

/-- A run moves along a relation that logging and the registry keep, if the engine does. -/
theorem Incidental.runScheduler {R : World → World → Prop} [Std.Refl R] [Trans R R R]
    (hR : Incidental R) (h : Defaults.ifBlank? db Defaults.schedulerDb = .ok d)
    (hcall : ∀ e, Within R (call e (schedulerOrder d))) : Within R (Dispatch.runScheduler call db) := by
  intro w
  rw [runScheduler_apply h]
  exact ((hR.callEngine hcall "scheduler").bind fun _ => Within.pure _) w

/-- A run notices a change that is none of its business only if the engine does. -/
theorem Unnoticed.runScheduler {g : World → World} (hg : Unnoticed g)
    (h : Defaults.ifBlank? db Defaults.schedulerDb = .ok d)
    (hcall : ∀ e, Blind g (call e (schedulerOrder d))) : Blind g (Dispatch.runScheduler call db) := by
  intro w
  rw [runScheduler_apply h, runScheduler_apply h]
  exact ((hg.callEngine hcall "scheduler").bind fun _ => Blind.pure _) w

end Dispatch

/-! ## What a handle holds -/

open Session in
/-- The handle holds how a run of the scheduler has ended: nothing, or its failure. -/
structure Handle.Holds (h : Handle) (outcome : Except Failure Unit) : Prop where
  ended : h.state = .finished (outcome.map fun _ => .null)
  result : answerQuery h .result = outcome.map fun _ => .value .null
  failure : answerQuery h .failure = .ok (.failure (match outcome with
    | .ok _ => none
    | .error f => some f))

theorem Handle.holds_of_ended {h : Handle} {outcome : Except Failure Unit}
    (hended : h.state = .finished (outcome.map fun _ => .null)) : h.Holds outcome := by
  refine ⟨hended, ?_, ?_⟩ <;> rw [Session.answerQuery, hended] <;> cases outcome <;> rfl

namespace Scheduler

variable {call : Dispatch.Call} {db : Value} {n : Nat} {w v : World} {h k : Handle}

/-! ## Running a target -/

/-- The world with a task that runs. -/
def begun (n : Nat) (w : World) : World := stated w n .running

/-- Logging and the search for engines have nothing to do with handles. -/
theorem begun_unnoticed (n : Nat) : Dispatch.Unnoticed (begun n) where
  note _ _ := rfl
  register _ _ := rfl
  registry _ := rfl
  service _ := rfl

theorem begun_runs (hn : w.handles[n]? = some h) : (begun n w).Runs n :=
  ⟨_, stated_ok .running hn, rfl⟩

theorem work_scheduler (nested : Nested) (call : Dispatch.Call) (db : Value) (w : World) :
    work nested call (.scheduler db) w =
      ((Dispatch.runScheduler call db w).1.map fun _ => .null,
        (Dispatch.runScheduler call db w).2) := by
  rw [work, bind_apply]
  rcases Dispatch.runScheduler call db w with ⟨f | _, v⟩ <;> rfl

/-- A run of the scheduler in the foreground, while the task of a handle runs. -/
def foreground (call : Dispatch.Call) (db : Value) (n : Nat) (w : World) :
    Except Failure Unit × World := Dispatch.runScheduler call db (begun n w)

/-- What has ended with an outcome keeps it, whatever whoever listens does in a session. -/
theorem inform_finished (depth : Nat) {outcome : Except Failure Value} (hk : v.handles[n]? = some k)
    (hended : k.state = .finished outcome) :
    ∃ i, (inform (Session.steps depth) n v).2.handles[n]? = some i ∧ i.state = .finished outcome := by
  have hinformed : Within Moved (inform (Session.steps depth) n) :=
    (Handles.attended.inform_agrees (Handles.steps_moving depth) n).within
  obtain ⟨i, hi, hcontinues⟩ := hinformed v n k hk
  exact ⟨i, hi, (hended ▸ hcontinues.leads).of_finished⟩

/-- Logging and the registry let tasks that run go on. -/
theorem onward_incidental : Dispatch.Incidental Onward :=
  .of_note (fun _ _ _ hn => hn) fun _ _ _ hn => hn

/-- An engine whose steps have to do with the scheduler does not end the task. -/
theorem foreground_runs (depth : Nat) (db : Value) (hw : w.Driven) (hn : w.handles[n]? = some h)
    (hwaits : h.state = .waiting) :
    (foreground (Session.enter (Session.steps depth)) db n w).2.Runs n := by
  have hgood : OneWay.Good [] w := ⟨hw, List.forall_mem_nil _⟩
  have hbegins : h.state.Leads .running := hwaits ▸ Task.State.Moves.begins.leads
  have hschedules : (Target.scheduler db).Schedules := trivial
  obtain ⟨-, -, hsettled⟩ := OneWay.work_agrees (OneWay.steps_agree (pure ()) depth []).self
    hschedules _ (hgood.stated hn hbegins)
  rw [work_scheduler] at hsettled
  exact (hsettled.runs n).2 (begun_runs hn)

section waiting

variable (hdb : Defaults.ifBlank? db Defaults.schedulerDb = .ok h.db) (hn : w.handles[n]? = some h)
  (htarget : h.target = some (.scheduler h.db)) (hwaits : h.state = .waiting)

include hdb hn htarget hwaits

/-- **The target of a task that waits is a run in the foreground**, and the task ends as the run
does. -/
theorem pump_run (nested : Nested) (call : Dispatch.Call) :
    pump nested call n w = finish nested n ((foreground call db n w).1.map fun _ => .null)
      (foreground call db n w).2 := by
  rw [pump_apply nested call hn htarget, hwaits]
  simp only [Task.State.begin?, work_scheduler, Dispatch.runScheduler_eq hdb]
  rfl

/-- If the task still runs after that, it ends then and whoever listens is told. -/
theorem pump_ended (nested : Nested) (call : Dispatch.Call)
    (hk : (foreground call db n w).2.handles[n]? = some k) (hruns : k.state = .running) :
    pump nested call n w = inform nested n (stated (foreground call db n w).2 n
      (.finished ((foreground call db n w).1.map fun _ => .null))) := by
  rw [pump_run hdb hn htarget hwaits, finish_apply nested _ hk, hruns]
  rfl

end waiting

/-- What becomes of a handle that waits is what becomes of a run in the foreground on `db`. -/
structure AsForeground (call : Dispatch.Call) (db : Value) (n : Nat) (w : World) (h : Handle) :
    Prop where
  /-- The engine is found when the target is run, and is the one for a run in the foreground. -/
  found : Dispatch.announce "scheduler" (begun n w) =
    ((Dispatch.announce "scheduler" w).1, begun n (Dispatch.announce "scheduler" w).2)
  /-- It is asked once, to run the scheduler on the database of the handle. -/
  asked : foreground call db n w =
    (do let _ ← Dispatch.closing "scheduler" (Dispatch.asking call h.db (begun n w)).1 : Act Unit)
      (Dispatch.asking call h.db (begun n w)).2
  order : (Dispatch.schedulerOrder h.db).get .schedulerDb = h.db
  outcome : (foreground call db n w).1 =
    ((Dispatch.asking call h.db (begun n w)).1.mapError Dispatch.passedOn).map fun _ => ()
  /-- For an engine that does not look at the task, it is all the same that the task runs. -/
  unnoticed : (∀ e, Blind (begun n) (call e (Dispatch.schedulerOrder h.db))) →
    foreground call db n w =
      ((Dispatch.runScheduler call db w).1, begun n (Dispatch.runScheduler call db w).2)
  /-- To run the target is that run, and then the task ends as the run did. -/
  run : ∀ nested, pump nested call n w = finish nested n
    ((foreground call db n w).1.map fun _ => .null) (foreground call db n w).2
  /-- Unless somebody else has ended the task meanwhile, the handle holds how the run ended. -/
  holds : (foreground call db n w).2.Runs n → ∀ depth, ∃ k,
    (pump (Session.steps depth) call n w).2.handles[n]? = some k ∧ k.Holds (foreground call db n w).1
  /-- Then nothing leaves the thread, but for the failure of a listener that asks to stop. -/
  contained : ∀ k, (foreground call db n w).2.handles[n]? = some k → k.state = .running →
    (∀ l ∈ k.listeners, l.Mild) → ∀ depth, (pump (Session.steps depth) call n w).1 = .ok ()
  /-- Nobody does if the engine lets tasks that run go on. -/
  onward : (∀ e, Within Onward (call e (Dispatch.schedulerOrder h.db))) →
    (foreground call db n w).2.Runs n
  inSession : w.Driven → ∀ depth, call = Session.enter (Session.steps depth) →
    (foreground call db n w).2.Runs n

theorem asForeground (hdb : Defaults.ifBlank? db Defaults.schedulerDb = .ok h.db)
    (call : Dispatch.Call) (hn : w.handles[n]? = some h)
    (htarget : h.target = some (.scheduler h.db)) (hwaits : h.state = .waiting) :
    AsForeground call db n w h where
  found := (begun_unnoticed n).announce "scheduler" w
  asked := Dispatch.runScheduler_asking hdb call _
  order := rfl
  outcome := Dispatch.runScheduler_outcome hdb call _
  unnoticed hcall := (begun_unnoticed n).runScheduler hdb hcall w
  run nested := pump_run hdb hn htarget hwaits nested call
  holds := by
    rintro ⟨k, hk, hruns⟩ depth
    rw [pump_ended hdb hn htarget hwaits _ call hk hruns]
    obtain ⟨i, hi, hended⟩ := inform_finished depth (stated_ok (.finished _) hk) rfl
    exact ⟨i, hi, Handle.holds_of_ended hended⟩
  contained k hk hruns hls depth := by
    rw [pump_ended hdb hn htarget hwaits _ call hk hruns]
    exact inform_ok (Session.steps_gentle depth) (stated_ok _ hk) hls
  onward hcall := onward_incidental.runScheduler hdb hcall _ n (begun_runs hn)
  inSession hw depth hcall := hcall ▸ foreground_runs depth db hw hn hwaits

/-! ## Starting -/

/-- What a start leaves behind: a log record, and a handle whose task waits. -/
structure Started (d : Value) (w v : World) : Prop where
  handles : v.handles = w.handles ++ [Handle.fresh d (some (.scheduler d))]
  journal : ∃ r, v.journal = w.journal ++ [(w.current, .log r)]
  registry : v.registry = w.registry
  service : v.service = w.service
  script : v.script = w.script

theorem start_apply {d : Value} (hdb : Defaults.ifBlank? db Defaults.schedulerDb = .ok d) (w : World) :
    ∃ v, start db w = (.ok w.handles.length, v) ∧ Started d w v := by
  rw [start, bind_ok (Dispatch.database_of_ifBlank hdb w)]
  exact ⟨_, rfl, rfl, ⟨_, rfl⟩, rfl, rfl, rfl⟩

theorem Started.handle {d : Value} (h : Started d w v) :
    v.handles[w.handles.length]? = some (Handle.fresh d (some (.scheduler d))) := by
  rw [h.handles, List.getElem?_append_right (Nat.le_refl _), Nat.sub_self]
  rfl

end Scheduler

/-- **A background run is a run in the foreground.** Let the database be named by a text or left out.
A start calls no engine and looks for none: it leaves a log record and a handle on the database that is
meant. Whatever is done in a session afterwards, the handle stays, with its database and its target.
If its task still waits in some later world then to run its target is to run the scheduler in the
foreground in that world. The engine is found there and then and is asked once, to run the scheduler on
the database of the handle; the task ends as the run does, well or with the very failure that the run
ends with, whatever its kind; and the failure does not leave the thread. -/
theorem background_is_foreground {db : Value} (hdb : db.IsText) (w : World) :
    ∃ d v, Dispatch.database db w = (.ok d, w) ∧
      Scheduler.start db w = (.ok w.handles.length, v) ∧ Scheduler.Started d w v ∧
      (∀ depth list, ∃ h, (Session.steps depth list v).2.handles[w.handles.length]? = some h ∧
        (Handle.fresh d (some (.scheduler d))).Continues h) ∧
      ∀ (call : Dispatch.Call) (u : World) (h : Handle), u.handles[w.handles.length]? = some h →
        (Handle.fresh d (some (.scheduler d))).Continues h → h.state = .waiting →
        h.db = d ∧ Scheduler.AsForeground call db w.handles.length u h := by
  obtain ⟨d, hd⟩ := Defaults.ifBlank?_of_isText hdb Defaults.schedulerDb
  obtain ⟨v, hstart, hstarted⟩ := Scheduler.start_apply hd w
  refine ⟨d, v, Dispatch.database_of_ifBlank hd w, hstart, hstarted, fun depth list => ?_,
    fun call u h hn hcontinues hwaits => ?_⟩
  · exact Handles.steps_moved depth list v _ _ hstarted.handle
  · obtain rfl : h.db = d := hcontinues.db
    exact ⟨rfl, Scheduler.asForeground hd call hn hcontinues.target hwaits⟩

/-- No engine is there when the scheduler is started, and one is registered before the target is run.
It is asked to stop while it runs. -/
theorem background_is_foreground_of_late_engine :
    let stop : Failure := .new .keyboardInterrupt []
    let w := { Sample.world with
      service := ⟨none, .null⟩
      script := ⟨[⟨false, none, .error stop⟩], 0⟩ }
    let v := (Scheduler.start .null w).2
    let u := (Session.steps 1 [.registerEngine (some (Text.ofString "late"))] v).2
    let pumped := Scheduler.pump (Session.steps 1) (Session.enter (Session.steps 1)) 0 u
    Value.IsText .null ∧ (Dispatch.announce "scheduler" w).1 = .ok .missing ∧
      (Dispatch.announce "scheduler" u).1 = .ok (.scripted (some (Text.ofString "late"))) ∧
      pumped.1 = .ok () ∧
      ∃ k, pumped.2.handles[0]? = some k ∧ k.Holds (.error stop) := by
  intro stop w v u pumped
  have hdb : Value.IsText .null := .inl rfl
  obtain ⟨d, _, hd, hstart, hstarted, hstays, hforeground⟩ := background_is_foreground hdb w
  obtain rfl : _ = v := (congrArg Prod.snd hstart).symm
  obtain ⟨h, hn, hcontinues⟩ := hstays 1 [.registerEngine (some (Text.ofString "late"))]
  have hwaits : h.state = .waiting := by
    obtain rfl := Option.some.inj hn
    rfl
  obtain ⟨-, hrun⟩ := hforeground (Session.enter (Session.steps 1)) u h hn hcontinues hwaits
  -- the run ends as the engine does, and the task still runs
  have hended : (Scheduler.foreground (Session.enter (Session.steps 1)) .null 0 u).1 = .error stop :=
    rfl
  have hcontained := hrun.contained _ rfl rfl (List.forall_mem_nil _) 1
  obtain ⟨k, hk, hholds⟩ := hrun.holds ⟨_, rfl, rfl⟩ 1
  exact ⟨hdb, rfl, rfl, hcontained, k, hk, hended ▸ hholds⟩

end CampaignDesk
