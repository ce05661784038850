import CampaignDesk.Proofs.Dispatch.Blind
import CampaignDesk.Proofs.Dispatch.Form
import CampaignDesk.Proofs.Dispatch.Once
import CampaignDesk.Proofs.Journal.Operations
import CampaignDesk.Proofs.Mild
import CampaignDesk.Proofs.Sample
import CampaignDesk.Proofs.Scheduler.Failures
import CampaignDesk.Proofs.Session.Hosting

/-!
# The log of operations

* `World.Bracketed`: what is logged of operations from one world to another are engine calls, each between
  two records, one after the other, and inside each call the same again. `Bracketed.word`: **that is read
  from left to right and leaves nothing unended.**
* `World.Calm`, `Step.Calm`: no engine asks to stop.
* `Operations.callEngine_keeps`, `Operations.steps_keep`: an engine call is bracketed if the steps inside are,
  and so a session is, at every depth.
* `Step.Refused`: an operation that does not come to its engine call. `Operations.perform_refused`: nothing
  is logged of it.
* `operations_are_bracketed`: **the log of operations of every session is bracketed**, and has nothing of
  refused operations.
-/

namespace CampaignDesk

open Act

/-! ## What is bracketed -/

/-- What is logged of operations from one world to another: nothing, or one part after the other, or an
engine call on behalf of an operation between a record that it begins and one for how it ended, with the
same again inside. -/
inductive World.Bracketed : World → World → Prop
  | nothing {w v : World} {new : Journal} (journal : v.journal = w.journal ++ new)
      (none : new.operations = []) : Bracketed w v
  | parts {w v u : World} (first : Bracketed w v) (second : Bracketed v u) : Bracketed w u
  | call {w later : World} (operation : String) (order : Order) (depth : Nat)
      {outcome : Except Failure Value}
      (called : (do Session.enter (Session.steps depth) (← Dispatch.engine) order : Act Value)
        (w.noted (Dispatch.started operation)) = (outcome, later))
      (inside : Bracketed (w.noted (Dispatch.started operation)) later) :
      Bracketed w (later.noted (Dispatch.ended operation outcome))

variable {w v : World}

/-- **What is bracketed leaves nothing unended**, whatever was there before and comes after it. -/
theorem World.Bracketed.word (h : w.Bracketed v) :
    ∃ word, v.journal.operations = w.journal.operations ++ word ∧
      ∀ stack rest, Journal.unended stack (word ++ rest) = Journal.unended stack rest := by
  induction h with
  | nothing journal none =>
    exact ⟨[], by rw [journal, Journal.operations_append, none], fun _ _ => rfl⟩
  | parts _ _ first second =>
    obtain ⟨word, hword, hreads⟩ := first
    obtain ⟨word', hword', hreads'⟩ := second
    refine ⟨word ++ word', by rw [hword', hword, List.append_assoc], fun stack rest => ?_⟩
    rw [List.append_assoc, hreads, hreads']
  | @call w later operation order depth outcome called inside ih =>
    obtain ⟨word, hword, hreads⟩ := ih
    refine ⟨Dispatch.started operation :: (word ++ [Dispatch.ended operation outcome]), ?_,
      fun stack rest => ?_⟩
    · rw [noted_operations (by cases outcome <;> rfl), hword, noted_operations (by rfl)]
      simp only [List.append_assoc, List.cons_append, List.nil_append]
    · rw [List.cons_append, Dispatch.unended_started, List.append_assoc, hreads]
      exact Dispatch.unended_ended

/-! ## Calm sessions -/

/-- To load what is announced fails with ordinary failures only. -/
def EntryPoint.Calm (p : EntryPoint) : Prop := ∀ f, p.loaded = .failure f → f.kind.isOrdinary = true

/-- Nothing is announced by a step, or inside of it, that asks to stop when it is loaded. -/
abbrev Step.Calm : Step → Prop :=
  Step.Throughout fun s => ∀ entryPoints, s = .setEntryPoints entryPoints → ∀ p ∈ entryPoints, p.Calm

namespace World

/-- No engine asks to stop, neither when it is loaded nor when it is called. -/
structure Calm (w : World) : Prop where
  entryPoints : ∀ p ∈ w.registry.entryPoints, p.Calm
  outcomes : ∀ a ∈ w.script.actions, Ordinary a.outcome
  script : ∀ a ∈ w.script.actions, Taking Step.Calm a.during
  handles : ∀ (n : Nat) (h : Handle), w.handles[n]? = some h → h.Takes Step.Calm

/-- Nothing is logged of operations, and handles and engines are the same. -/
structure Unmarked (w v : World) : Prop where
  journal : ∃ new : Journal, v.journal = w.journal ++ new ∧ new.operations = []
  handles : v.handles = w.handles
  actions : v.script.actions = w.script.actions
  entryPoints : v.registry.entryPoints = w.registry.entryPoints

theorem unmarked_of_same (hjournal : v.journal = w.journal) (hhandles : v.handles = w.handles)
    (hactions : v.script.actions = w.script.actions)
    (hentryPoints : v.registry.entryPoints = w.registry.entryPoints) : w.Unmarked v :=
  ⟨⟨[], by rw [hjournal, List.append_nil], rfl⟩, hhandles, hactions, hentryPoints⟩

instance : Std.Refl Unmarked := ⟨fun _ => unmarked_of_same rfl rfl rfl rfl⟩

instance : Trans Unmarked Unmarked Unmarked where
  trans h h' := by
    obtain ⟨new, hnew, hnone⟩ := h.journal
    obtain ⟨new', hnew', hnone'⟩ := h'.journal
    refine ⟨⟨new ++ new', by rw [hnew', hnew, List.append_assoc], ?_⟩, h'.handles.trans h.handles,
      h'.actions.trans h.actions, h'.entryPoints.trans h.entryPoints⟩
    rw [Journal.operations_append, hnone, hnone']
    rfl

theorem Unmarked.operations (h : w.Unmarked v) : v.journal.operations = w.journal.operations := by
  obtain ⟨new, hnew, hnone⟩ := h.journal
  rw [hnew, Journal.operations_append, hnone, List.append_nil]

instance : Std.Refl Bracketed := ⟨fun w => .nothing (List.append_nil w.journal).symm rfl⟩

instance : Trans Bracketed Bracketed Bracketed := ⟨.parts⟩

theorem bracketed_of_same (h : v.journal = w.journal) : w.Bracketed v :=
  .nothing (by rw [h, List.append_nil]) rfl

theorem Calm.of_same (hw : w.Calm) (hhandles : v.handles = w.handles)
    (hactions : v.script.actions = w.script.actions)
    (hentryPoints : v.registry.entryPoints = w.registry.entryPoints) : v.Calm := by
  refine ⟨?_, ?_, ?_, ?_⟩
  · rw [hentryPoints]
    exact hw.entryPoints
  · rw [hactions]
    exact hw.outcomes
  · rw [hactions]
    exact hw.script
  · rw [hhandles]
    exact hw.handles

end World

namespace Operations

open World Dispatch

variable {w v : World} {n : Nat}

theorem record_unmarked {e : Entry} (he : ∀ m, Journal.operations [(m, e)] = []) :
    Within Unmarked (record e) :=
  fun w => ⟨⟨[(w.current, e)], rfl, he _⟩, rfl, rfl, rfl⟩

theorem remark_unmarked (r : Record) (h : r.operation = none) : Within Unmarked (Act.note r) := by
  have hnone : r.isOfOperation = false := by simp [Record.isOfOperation, h]
  refine (record_unmarked fun m => ?_).bind fun _ w => unmarked_of_same rfl rfl rfl rfl
  simp [Journal.operations, Journal.records, hnone]

theorem unmarked_beside : Beside Unmarked where
  remark := remark_unmarked
  register _ _ := unmarked_of_same rfl rfl rfl rfl
  during _ := record_unmarked fun _ => rfl
  took _ _ := record_unmarked fun _ => rfl
  counted _ _ := unmarked_of_same rfl rfl rfl rfl
  stored _ _ := unmarked_of_same rfl rfl rfl rfl

theorem unmarked_aside : Aside Unmarked where
  toBeside := unmarked_beside
  call _ := record_unmarked fun _ => rfl
  numbered _ _ _ := unmarked_of_same rfl rfl rfl rfl

theorem unmarked_housekeeping : Housekeeping Unmarked :=
  .of_files (fun _ _ _ _ => unmarked_of_same rfl rfl rfl rfl) remark_unmarked

theorem unmarked_elsewhere : Elsewhere Unmarked :=
  { unmarked_beside, unmarked_housekeeping with
    service := fun _ _ => unmarked_of_same rfl rfl rfl rfl
    made := fun _ _ => unmarked_of_same rfl rfl rfl rfl
    fetched := fun _ _ => unmarked_of_same rfl rfl rfl rfl }

theorem unmarked_keeps (w v : World) (h : w.Unmarked v) (hw : w.Calm) : v.Calm ∧ w.Bracketed v := by
  obtain ⟨new, hnew, hnone⟩ := h.journal
  exact ⟨Calm.of_same hw h.handles h.actions h.entryPoints, .nothing hnew hnone⟩

/-! ### Handles -/

/-- A handle changes, and what it calls stays of the same kind. -/
theorem update_keeps {g : Handle → Handle}
    (hg : ∀ h : Handle, h.Takes Step.Calm → (g h).Takes Step.Calm) :
    Agree Calm Bracketed (Scheduler.update n g) (Scheduler.update n g) := by
  intro w hw
  refine ⟨rfl, ⟨hw.entryPoints, hw.outcomes, hw.script, fun m k hk => ?_⟩, bracketed_of_same rfl⟩
  obtain ⟨h, hm, rfl | ⟨-, rfl⟩⟩ := Scheduler.modified_cases hk
  · exact hw.handles m k hm
  · exact hg h (hw.handles m h hm)

theorem attended : Attended Step.Calm Calm Bracketed Unmarked where
  toBeside := unmarked_beside
  added _ := record_unmarked fun _ => rfl
  told _ _ := record_unmarked fun _ => rfl
  keeps := unmarked_keeps
  listeners _ n h hw hn := (hw.handles n h hn).listeners
  update n g hg hlisteners := update_keeps fun h hh => by
    refine ⟨?_, hlisteners h hh.listeners⟩
    rw [hg.target]
    exact hh.target

/-- A handle joins the others. -/
theorem add_keeps {h : Handle} (hh : h.Takes Step.Calm) :
    Agree Calm Bracketed (Scheduler.add h) (Scheduler.add h) := by
  intro w hw
  refine ⟨rfl, ⟨hw.entryPoints, hw.outcomes, hw.script, fun m k hk => ?_⟩, bracketed_of_same rfl⟩
  rcases List.mem_append.1 (List.mem_of_getElem? hk) with hk | hk
  · obtain ⟨i, hi⟩ := List.mem_iff_getElem?.1 hk
    exact hw.handles i k hi
  · rw [List.mem_singleton.1 hk]
    exact hh

theorem hosting : Hosting Step.Calm Calm Bracketed Unmarked :=
  { attended, unmarked_elsewhere with
    targets := fun _ n _ hw hn => (hw.handles n _ hn).target
    joined := fun _ hh => add_keeps hh
    stated := fun w _ _ state hw _ _ =>
      (update_keeps (g := fun h => { h with state := state }) (fun _ hh => ⟨hh.target, hh.listeners⟩)
        w hw).2
    scheduled := fun _ _ => unmarked_of_same rfl rfl rfl rfl }

/-! ### Engine calls -/

/-- The world without faults, in a working directory that is there. -/
def undisturbed (w : World) : World := { w with faults := [], cwd := .ok [] }

theorem undisturbed_unnoticed : Unnoticed undisturbed where
  note _ _ := rfl
  register _ _ := rfl
  registry _ := rfl
  service _ := rfl

/-- An engine is looked for, and that fails with an ordinary failure only. -/
theorem engine_ordinary (hw : w.Calm) : Ordinary (engine w).1 := by
  -- faults of files may ask to stop, but an engine is found without files
  have hmild : (undisturbed w).Mild := ⟨List.forall_mem_nil _, ordinary_ok _, hw.entryPoints⟩
  have hfound := (engine_mild (undisturbed w) hmild).2
  rw [undisturbed_unnoticed.engine w] at hfound
  exact hfound

/-- What a scripted engine does fails with ordinary failures only. -/
theorem enact_ordinary {nested : Scheduler.Nested} (hnested : Session.Gentle nested) {action : Action}
    (h : Ordinary action.outcome) (files : List Text) (w : World) :
    Ordinary (Session.enact nested files action w).1 := by
  have hsteps (steps : List Step) (v : World) : Ordinary ((do
      Act.record (.during (← nested steps))
      settle action.outcome : Act Value) v).1 := by
    rw [bind_apply]
    rcases hrun : nested steps v with ⟨f | answers, u⟩
    · exact ordinary_error (hnested steps v f (congrArg Prod.fst hrun))
    · exact h
  unfold Session.enact
  cases action.during with
  | none => cases action.deleteFiles <;> exact h
  | some steps => cases action.deleteFiles <;> exact hsteps steps _

/-- An engine that follows a script fails with ordinary failures only. -/
theorem enter_ordinary (depth : Nat) (e : EngineRef) (order : Order) (hw : w.Calm) :
    Ordinary (Session.enter (Session.steps depth) e order w).1 := by
  cases e with
  | missing => exact ordinary_error rfl
  | scripted tag =>
    have haction : Ordinary (Session.nextAction w.script).outcome := by
      rcases Session.nextAction_cases w.script with hnone | hmem
      · rw [hnone]
        exact ordinary_ok _
      · exact hw.outcomes _ hmem
    exact enact_ordinary (Session.steps_gentle depth) haction _ _

/-- **An engine call is bracketed if the steps inside are.** -/
theorem callEngine_keeps (depth : Nat)
    (hcall : ∀ e order, Agree Calm Bracketed (Session.enter (Session.steps depth) e order)
      (Session.enter (Session.steps depth) e order)) (operation : String) (order : Order) :
    Agree Calm Bracketed (callEngine (Session.enter (Session.steps depth)) operation order)
      (callEngine (Session.enter (Session.steps depth)) operation order) := by
  intro w hw
  refine ⟨rfl, ?_⟩
  have hbegun : (w.noted (started operation)).Calm := Calm.of_same hw rfl rfl rfl
  -- what the call comes to, from the moment when the begin has been logged
  have hcalled : Agree Calm Bracketed (do Session.enter (Session.steps depth) (← engine) order : Act Value)
      (do Session.enter (Session.steps depth) (← engine) order) :=
    (attended.of_within unmarked_beside.engine).bind fun e => hcall e order
  obtain ⟨-, hlater, hinside⟩ := hcalled _ hbegun
  have hordinary : Ordinary ((do Session.enter (Session.steps depth) (← engine) order : Act Value)
      (w.noted (started operation))).1 := by
    have hfound := engine_ordinary hbegun
    obtain ⟨-, hcalm, -⟩ := attended.of_within unmarked_beside.engine _ hbegun
    rw [bind_apply]
    rcases hengine : engine (w.noted (started operation)) with ⟨f | e, v⟩ <;> rw [hengine] at hfound hcalm
    · exact ordinary_error (hfound f rfl)
    · exact enter_ordinary depth e order hcalm
  rcases hrun : (do Session.enter (Session.steps depth) (← engine) order : Act Value)
    (w.noted (started operation)) with ⟨outcome, later⟩
  rw [hrun] at hlater hinside hordinary
  have hended : (callEngine (Session.enter (Session.steps depth)) operation order w).2 =
      later.noted (ended operation outcome) := by
    have hannounced : (announce operation >>= fun e => Session.enter (Session.steps depth) e order) w =
        (outcome, later) := hrun
    rw [callEngine_asked, hannounced]
    exact closing_noted operation hordinary
  rw [hended]
  exact ⟨Calm.of_same hlater rfl rfl rfl, .call operation order depth hrun hinside⟩

/-- **A session is bracketed**, at every depth. -/
theorem steps_keep (depth : Nat) :
    NestedAgree Step.Calm Calm Bracketed (Session.steps depth) (Session.steps depth) := by
  induction depth with
  | zero => exact fun list _ => Agree.of_eq fun _ => rfl
  | succ depth ih =>
    refine fun list hlist => Agree.mapM fun step hstep => ?_
    have henter (e : EngineRef) (order : Order) :
        Agree Calm Bracketed (Session.enter (Session.steps depth) e order)
          (Session.enter (Session.steps depth) e order) :=
      Session.enter_agrees unmarked_aside unmarked_keeps (fun _ hw => hw.script) ih e order
    refine Session.answer_agrees unmarked_aside unmarked_keeps
      (hosting.perform_agrees (callEngine_keeps depth henter) ih (fun s hs => (hlist step hstep).inside hs)
        (fun entryPoints hannounces w hw => ?_) henter)
    rw [hannounces]
    exact ⟨rfl, ⟨(hlist step hstep).own entryPoints hannounces, hw.outcomes, hw.script, hw.handles⟩,
      bracketed_of_same rfl⟩

end Operations

/-! ## Refused operations -/

/-- There is no form in a source, or it is not prepared for an operation. -/
def Source.Unprepared (source : Source) (operation : Campaign) (w : World) : Prop :=
  (∃ f, source.form? = .error f) ∨ ∃ form f v, source.form? = .ok form ∧
    Preparation.prepare form (.bool (operation = .preview)) w.service.tempDir w = (.error f, v)

/-- No database is meant by a value. -/
def Dispatch.NoDatabase (db : Value) : Prop := ∀ d, Defaults.ifBlank? db Defaults.schedulerDb ≠ .ok d

/-- An operation is refused before an engine is called for it: its form fails a check or to be written, a
job has no name, or no database is meant. -/
inductive Step.Refused (w : World) : Step → Prop
  | serve {operation : Campaign} {source : Source} (h : source.Unprepared operation w) :
      Refused w (.serve operation source)
  | ask {operation : Campaign} {source : Source} (h : source.Unprepared operation w) :
      Refused w (.ask operation source)
  | cancelJob {job db : Value} (h : Defaults.isBlank? job ≠ .ok false ∨ Dispatch.NoDatabase db) :
      Refused w (.cancelJob job db)
  | askCancel {job db : Value} (h : Defaults.isBlank? job ≠ .ok false ∨ Dispatch.NoDatabase db) :
      Refused w (.askCancel job db)
  | listJobs {db : Value} (h : Dispatch.NoDatabase db) : Refused w (.listJobs db)
  | askJobs {db : Value} (h : Dispatch.NoDatabase db) : Refused w (.askJobs db)
  | runScheduler {db : Value} (h : Dispatch.NoDatabase db) : Refused w (.runScheduler db)
  | startScheduler {db : Value} (h : Dispatch.NoDatabase db) : Refused w (.startScheduler db)
  | askStart {db : Value} (h : Dispatch.NoDatabase db) : Refused w (.askStart db)

namespace Operations

open World Dispatch

variable {w : World} {operation : Campaign} {source : Source} {job db : Value}

/-- An operation fails, and nothing is logged of it. -/
def Fails {α : Type} (act : Act α) (w : World) : Prop := ∃ f v, act w = (.error f, v) ∧ w.Unmarked v

theorem Fails.unmarked {α : Type} {act : Act α} (h : Fails act w) : w.Unmarked (act w).2 := by
  obtain ⟨f, v, hact, hv⟩ := h
  rw [hact]
  exact hv

theorem Fails.bind {α β : Type} {act : Act α} (h : Fails act w) (next : α → Act β) :
    Fails (act >>= next) w := by
  obtain ⟨f, v, hact, hv⟩ := h
  exact ⟨f, v, bind_error hact, hv⟩

/-- What fails is answered at the desk, and nothing is logged of the operation either. -/
theorem Fails.invoke {act : Act Unit} (h : Fails act w) (message : String) :
    w.Unmarked (Desk.invoke act message w).2 := by
  obtain ⟨f, v, hact, hv⟩ := h
  have hanswer : Within Unmarked (Desk.invoke (settle (.error f)) message) :=
    unmarked_beside.invoke (Within.settle _) message
  have hsame : Desk.invoke act message w = Desk.invoke (settle (.error f)) message v :=
    invoke_congr hact message
  rw [hsame]
  exact Trans.trans hv (hanswer v)

theorem fails_database (h : NoDatabase db) : Fails (database db) w := by
  rcases hdb : Defaults.ifBlank? db Defaults.schedulerDb with f | d
  · exact ⟨f, w, congrArg (·, w) hdb, Std.Refl.refl w⟩
  · exact absurd hdb (h d)

theorem fails_prepared (call : Dispatch.Call) (h : source.Unprepared operation w) :
    Fails (do perform call operation (← settle source.form?)) w := by
  rcases h with ⟨f, hform⟩ | ⟨form, f, v, hform, hprepare⟩
  · exact ⟨f, w, bind_error (congrArg (·, w) hform), Std.Refl.refl w⟩
  · have hsettled : settle source.form? w = (.ok form, w) := congrArg (·, w) hform
    have hprepared := unmarked_housekeeping.prepare form (.bool (operation = .preview))
      w.service.tempDir w
    rw [hprepare] at hprepared
    exact ⟨f, v, (bind_ok hsettled).trans (perform_unprepared hprepare call), hprepared⟩

theorem fails_cancelJob (call : Dispatch.Call)
    (h : Defaults.isBlank? job ≠ .ok false ∨ NoDatabase db) : Fails (cancelJob call job db) w := by
  by_cases hblank : Defaults.isBlank? job = .ok false
  · have hsettled : settle (Defaults.isBlank? job) w = (.ok false, w) := congrArg (·, w) hblank
    have hdatabase : NoDatabase db := h.resolve_left fun hnot => hnot hblank
    obtain ⟨f, v, hfails, hv⟩ := (fails_database hdatabase (w := w)).bind fun d => do
      let _ ← callEngine call "cancel_job" (cancelOrder job d)
    exact ⟨f, v, (bind_ok hsettled).trans hfails, hv⟩
  · obtain ⟨f, hrefused⟩ := cancelJob_unnamed hblank db w
    exact ⟨f, w, hrefused call, Std.Refl.refl w⟩

theorem fails_listJobs (call : Dispatch.Call) (h : NoDatabase db) : Fails (listJobs call db) w :=
  (fails_database h).bind _

theorem unmarked_askJobs (call : Dispatch.Call) (h : NoDatabase db) :
    w.Unmarked (Desk.askJobs call db w).2 := by
  obtain ⟨f, v, hfails, hv⟩ := fails_listJobs call h
  have hanswer := unmarked_beside.outcomeOf f "Unexpected error listing jobs" (.list []) v
  rw [Desk.askJobs, bind_ok (attempt_apply _ w), hfails]
  exact Trans.trans hv hanswer

theorem unmarked_askStart (h : NoDatabase db) : w.Unmarked (Desk.askStart db w).2 := by
  have hlaunch : Agree (fun _ => True) Unmarked (Exclusive.launch db) (Exclusive.launch db) :=
    fun _ _ => ⟨rfl, trivial, (((fails_database h).bind _).bind _).unmarked⟩
  exact (Exclusive.askStart_of_launch hlaunch).within w

theorem unmarked_map {α β : Type} {act : Act α} (h : w.Unmarked (act w).2) (g : α → β) :
    w.Unmarked ((act >>= fun a => pure (g a)) w).2 := by
  rw [bind_apply]
  rcases hact : act w with ⟨f | a, v⟩ <;> rw [hact] at h <;> exact h

theorem unmarked_ask (call : Dispatch.Call) (h : source.Unprepared operation w) :
    w.Unmarked (Desk.ask call operation source.form? w).2 :=
  (fails_prepared call h).invoke _

/-- **A refused operation adds nothing to the log of operations.** -/
theorem perform_refused {step : Step} (h : step.Refused w) (call : Dispatch.Call)
    (nested : Scheduler.Nested) : w.Unmarked (Session.perform call nested step w).2 := by
  cases h with
  | @serve operation source h =>
    have hfails := (fails_prepared call h).bind fun _ => (pure Session.nothing : Act Reply)
    rw [bind_assoc] at hfails
    exact hfails.unmarked
  | @ask operation source h =>
    have hasked := unmarked_map (unmarked_ask call h) fun o => Reply.value o.toValue
    cases source with
    | payload v => exact hasked
    | fields entries =>
      rcases hform : Source.form? (.fields entries) with f | form
      · have hfails : Fails (settle (Source.form? (.fields entries))) w :=
          ⟨f, w, congrArg (·, w) hform, Std.Refl.refl w⟩
        exact (hfails.bind _).unmarked
      · rw [hform] at hasked
        have hperform : Session.perform call nested (.ask operation (.fields entries)) w =
            (Desk.ask call operation (.ok form) >>= fun o => pure (.value o.toValue)) w :=
          bind_ok (congrArg (·, w) hform)
        rw [hperform]
        exact hasked
  | cancelJob h => exact ((fails_cancelJob call h).bind _).unmarked
  | askCancel h => exact unmarked_map ((fails_cancelJob call h).invoke _) _
  | listJobs h => exact ((fails_listJobs call h).bind _).unmarked
  | askJobs h => exact unmarked_map (unmarked_askJobs call h) _
  | runScheduler h => exact (((fails_database h).bind _).bind _).unmarked
  | startScheduler h => exact (((fails_database h).bind _).bind _).unmarked
  | askStart h => exact unmarked_map (unmarked_askStart h) _

end Operations

/-- **The log of operations is bracketed.** Take a session of any steps, in which no engine asks to stop,
neither when it is loaded nor when it is called, wherever it is called from. Then, to any depth of calls,

* what is logged of operations are engine calls, one after the other and one inside the other, each between
  the record that the operation begins with and the one for how that very call ended;
* so the records that were added leave no operation unended when they are read from left to right, and each
  record for an end is one for the operation that began last;
* an operation that is refused before it comes to its engine call adds nothing to the log of operations. -/
theorem operations_are_bracketed (depth : Nat) {list : List Step} (hlist : ∀ step ∈ list, step.Calm)
    {w : World} (hw : w.Calm) :
    w.Bracketed (Session.steps depth list w).2 ∧
    (∃ word, (Session.steps depth list w).2.journal.operations = w.journal.operations ++ word ∧
      Journal.unended [] word = some []) ∧
    ∀ (step : Step) (u : World) (call : Dispatch.Call) (nested : Scheduler.Nested), step.Refused u →
      (Session.perform call nested step u).2.journal.operations = u.journal.operations := by
  obtain ⟨-, -, hbracketed⟩ := Operations.steps_keep depth list hlist w hw
  obtain ⟨word, hword, hreads⟩ := hbracketed.word
  refine ⟨hbracketed, ⟨word, hword, ?_⟩, fun step u call nested hrefused => ?_⟩
  · have hread := hreads [] []
    rw [List.append_nil] at hread
    exact hread
  · exact World.Unmarked.operations (Operations.perform_refused hrefused call nested)

/-- An engine lists the jobs while it runs a campaign, and every other call of it fails. Then a job without
a name is refused, and the scheduler runs in the background. -/
theorem operations_are_bracketed_sample :
    let locked : Failure := .new .runtimeError "locked"
    let w := { Sample.world with
      script := ⟨[⟨false, some [.listJobs .null], .ok .null⟩, ⟨false, none, .error locked⟩], 0⟩ }
    let payload : Value := .dict [(.ofString "envPath", .ofString "mail.json")]
    let list : List Step := [.serve .run (.payload payload), .cancelJob (.ofString " ") .null,
      .startScheduler .null, .pump none]
    let v := (Session.steps 3 list w).2
    w.Calm ∧ w.Bracketed v ∧
      v.journal.operations.map (fun r => (r.level, r.message)) =
        ([(.info, "Starting run"), (.info, "Starting list_jobs"), (.error, "list_jobs failed: locked"),
          (.info, "run completed"), (.info, "Starting scheduler"),
          (.error, "scheduler failed: locked")] : List (Level × Text)) ∧
      Journal.unended [] v.journal.operations = some [] ∧
      ∀ call nested,
        (Session.perform call nested (.cancelJob (.ofString " ") .null) w).2.journal.operations = [] := by
  intro locked w payload list v
  have hplain (step : Step) (hown : ∀ entryPoints, step ≠ .setEntryPoints entryPoints)
      (hinside : ∀ s, ¬ Step.Inside s step) : step.Calm :=
    .intro (fun entryPoints h => absurd h (hown entryPoints)) fun s h => absurd h (hinside s)
  have hlist : ∀ step ∈ list, step.Calm := by
    simp only [list, List.forall_mem_cons]
    exact ⟨hplain _ nofun nofun, hplain _ nofun nofun, hplain _ nofun nofun, hplain _ nofun nofun,
      List.forall_mem_nil _⟩
  have hcalm : w.Calm := by
    refine ⟨List.forall_mem_nil _, ?_, ?_, fun n h hn => by cases hn⟩
    · exact List.forall_mem_cons.2 ⟨ordinary_ok _, List.forall_mem_singleton.2 (ordinary_error rfl)⟩
    · refine List.forall_mem_cons.2 ⟨?_, List.forall_mem_singleton.2 nofun⟩
      rintro steps ⟨⟩
      exact List.forall_mem_singleton.2 (hplain _ nofun nofun)
  obtain ⟨hbracketed, ⟨word, hword, hreads⟩, hrefused⟩ := operations_are_bracketed 3 hlist hcalm
  have hblank : Defaults.isBlank? (.ofString " ") ≠ .ok false := by
    rw [show Defaults.isBlank? (.ofString " ") = .ok true from rfl]
    exact nofun
  refine ⟨hcalm, hbracketed, by decide +kernel, ?_, fun call nested => ?_⟩
  · have hnothing : w.journal.operations = [] := rfl
    rw [hword, hnothing]
    exact hreads
  · exact hrefused _ w call nested (.cancelJob (.inl hblank))

end CampaignDesk
