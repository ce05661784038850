import CampaignDesk.Proofs.Campaign.Leftovers
import CampaignDesk.Proofs.Dispatch.Apart

/-!
# Running, previewing and scheduling

The three operations on a form go through the same stages. They differ in the preview flag of the order
and in what they are called in the log.

* `Campaign.marked`: the order that an operation makes of the order of a run.
  `Preparation.prepare_marked`: **every operation prepares what a run prepares, and marks the order.**
* `Dispatch.Entered.Beside`: two operations that call the same engine at the same moment.
* `Dispatch.modes_differ_in_preview`: **the operations fail alike or call the engine side by side**, and
  then they end alike if the engine does.
-/

namespace CampaignDesk

open Store World Act

/-- What an operation makes of the order of a run: a preview is marked as one. -/
def Campaign.marked : Campaign → Order → Order
  | .preview, order => order.set .showPreview (.bool true)
  | .run, order | .schedule, order => order

namespace Preparation

variable (form : Form) (directory : Value)

theorem order?_preview (template recipients : Value) (attachments : List Text) :
    order? form (.bool true) template recipients attachments =
      (order? form (.bool false) template recipients attachments).map
        (Campaign.marked .preview) := by
  unfold order?
  rcases Defaults.ifBlank? (form.get .jobBackoff) Defaults.jobBackoff with f | backoff
  · rfl
  rcases Defaults.ifBlank? (form.get .schedulerDb) Defaults.schedulerDb with f | db
  · rfl
  refine congrArg (fun get => Except.ok (Order.mk get)) (funext fun field => ?_)
  cases field <;> rfl

theorem draft_preview (attachments : List Text) (t : TempFiles) (w : World) :
    draft form (.bool true) attachments t w =
      (((draft form (.bool false) attachments t w).1.1.map (Campaign.marked .preview),
        (draft form (.bool false) attachments t w).1.2),
        (draft form (.bool false) attachments t w).2) := by
  simp only [draft, Drafting.bind_apply]
  rcases template form t w with ⟨⟨f | html, t'⟩, v⟩
  · rfl
  simp only
  rcases recipients form t' v with ⟨⟨f | csv, t''⟩, u⟩
  · rfl
  · simp only [Drafting.lift_apply, settle_apply, order?_preview]

theorem drafting_preview (t : TempFiles) (w : World) :
    drafting form (.bool true) t w =
      (((drafting form (.bool false) t w).1.1.map (Campaign.marked .preview),
        (drafting form (.bool false) t w).1.2), (drafting form (.bool false) t w).2) := by
  simp only [drafting, Drafting.bind_apply]
  rcases Drafting.lift (checkServerConfig (form.get .envPath)) t w with ⟨⟨f | _, t'⟩, v⟩
  · rfl
  simp only
  rcases Drafting.lift (attachments (form.get .attachments)) t' v with ⟨⟨f | paths, t''⟩, u⟩
  · rfl
  · exact draft_preview form paths t'' u

/-- **Every operation prepares what a run prepares, and marks the order.** The world is left the same, and
a failure is the same. -/
theorem prepare_marked (operation : Campaign) (w : World) :
    prepare form (.bool (operation = .preview)) directory w =
      ((prepare form (.bool false) directory w).1.map fun made => (operation.marked made.1, made.2),
        (prepare form (.bool false) directory w).2) := by
  have hplain (outcome : Except Failure (Order × TempFiles)) :
      outcome.map (fun made => (made.1, made.2)) = outcome := by cases outcome <;> rfl
  cases operation with
  | run => exact Prod.ext (hplain _).symm rfl
  | schedule => exact Prod.ext (hplain _).symm rfl
  | preview =>
    change prepare form (.bool true) directory w = _
    simp only [prepare_eq, drafting_preview]
    rcases drafting form (.bool false) (TempFiles.none directory TempFiles.defaultStem) w with
      ⟨⟨f | order, files⟩, v⟩
    · simp only [Except.map, ensure_apply, throw_apply]
      rcases files.release v with ⟨e | _, u⟩ <;> rfl
    · rfl

end Preparation

namespace Dispatch

/-- Two operations call the same engine, with the same files there; nothing but what was logged may be
different. -/
structure Entered.Beside (x y : Entered) : Prop where
  engine : y.engine = x.engine
  files : y.files = x.files
  world : x.world.ApartInLog y.world

/-- An operation fails before its call as a run does, or calls the engine beside it. -/
theorem entered?_beside (operation : Campaign) (form : Form) (w : World) :
    (entered? .run form w = none ∧ entered? operation form w = none ∧ ∃ f v u,
      (∀ call, perform call .run form w = (.error f, v)) ∧
      (∀ call, perform call operation form w = (.error f, u)) ∧ v.ApartInLog u) ∨
    ∃ x y, entered? .run form w = some x ∧ entered? operation form w = some y ∧ x.Beside y ∧
      y.order = operation.marked x.order ∧
      (∀ call, perform call .run form w = leave .run x.files (call x.engine x.order x.world)) ∧
      ∀ call, perform call operation form w =
        leave operation y.files (call y.engine y.order y.world) := by
  have hprepare (o : Campaign) := Preparation.prepare_marked form w.service.tempDir o w
  rcases hrun : Preparation.prepare form (.bool false) w.service.tempDir w with
    ⟨f | ⟨order, files⟩, v⟩ <;> simp only [hrun] at hprepare
  · -- the preparation fails, and it is the same for both
    refine .inl ⟨?_, ?_, f, v, v, perform_unprepared (hprepare .run),
      perform_unprepared (hprepare operation), .refl v⟩ <;>
    · rw [entered?, hprepare]
      rfl
  have hperform (o : Campaign) (call : Call) := perform_prepared (hprepare o) call
  have hstep := announce_inStep (operationName .run) (operationName operation) (ApartInLog.refl v)
  rcases hann : announce (operationName .run) v with ⟨f | e, u⟩ <;>
    rcases hann' : announce (operationName operation) v with ⟨f' | e', u'⟩ <;>
    rw [hann, hann'] at hstep <;> cases hstep.1
  · -- no engine is found for either
    obtain ⟨g, hfailed⟩ := leave_error .run files f u
    have hleave := leave_inStep .run operation files (.error f, u) (.error f, u') rfl hstep.2
    refine .inl ⟨?_, ?_, g, _, _, fun call => ?_, fun call => ?_, hleave.2⟩
    · simp only [entered?, hprepare, Except.map, hann]
    · simp only [entered?, hprepare, Except.map, hann']
    · rw [hperform, bind_error hann, ← hfailed]
    · rw [hperform, bind_error hann', ← hfailed, ← hleave.1]
  · refine .inr ⟨⟨e, order, files, u⟩, ⟨e, operation.marked order, files, u'⟩, ?_, ?_,
      ⟨rfl, rfl, hstep.2⟩, rfl, fun call => ?_, fun call => ?_⟩
    · simp only [entered?, hprepare, Except.map, hann]
      rfl
    · simp only [entered?, hprepare, Except.map, hann']
    · rw [hperform, bind_ok hann]
      rfl
    · rw [hperform, bind_ok hann']

/-- **Running, previewing and scheduling differ in the preview flag only.** Whatever the form holds and
whatever stands in the way, either all three fail before the engine with the same failure, whichever
engine there is; or all three call the same engine, with the same files there. The order of a schedule is
that of a run, and the order of a preview is that of a run with the preview flag set. If the engine then
does the same for two of them, they end in the same way and leave the same files. What was logged, and
with it what the log file holds, tells the operations apart, but nothing else does. -/
theorem modes_differ_in_preview (form : Form) (w : World) :
    (∃ (f : Failure) (v : World), ∀ operation, entered? operation form w = none ∧ ∃ u,
      (∀ call, perform call operation form w = (.error f, u)) ∧ v.ApartInLog u) ∨
    ∃ x, entered? .run form w = some x ∧ ∀ operation, ∃ y, entered? operation form w = some y ∧
      x.Beside y ∧ y.order = operation.marked x.order ∧ ∀ call,
        perform call operation form w = leave operation y.files (call y.engine y.order y.world) ∧
        ((call y.engine y.order y.world).1 = (call x.engine x.order x.world).1 →
          (call x.engine x.order x.world).2.ApartInLog (call y.engine y.order y.world).2 →
          (perform call operation form w).1 = (perform call .run form w).1 ∧
          (perform call .run form w).2.ApartInLog (perform call operation form w).2) := by
  rcases entered?_beside .run form w with ⟨hnone, -, f, v, -, hfails, -⟩ | ⟨x, -, hsome, -, -⟩
  · refine .inl ⟨f, v, fun operation => ?_⟩
    rcases entered?_beside operation form w with
      ⟨-, hnone', f', v', u, hfails', hfails'', hapart⟩ | ⟨x, -, hsome, -⟩
    · cases (hfails fun _ _ => pure .null).symm.trans (hfails' fun _ _ => pure .null)
      exact ⟨hnone', u, hfails'', hapart⟩
    · cases hnone.symm.trans hsome
  · refine .inr ⟨x, hsome, fun operation => ?_⟩
    rcases entered?_beside operation form w with
      ⟨hnone, -⟩ | ⟨x', y, hsome', hentered, hbeside, horder, hrun, hperform⟩
    · cases hnone.symm.trans hsome
    cases hsome.symm.trans hsome'
    refine ⟨y, hentered, hbeside, horder, fun call => ⟨hperform call, fun hended hleft => ?_⟩⟩
    rw [hrun, hperform, hbeside.files]
    exact leave_inStep .run operation x.files _ _ hended hleft

/-- In the sample world an engine that cannot reach its server fails for all three operations in the same
way, from the order of a run and from that of a preview, and the same files are left. -/
theorem modes_differ_in_preview_sample :
    let call : Call := fun _ _ => throw (.valueError "no route to host")
    ∃ x, entered? .run Sample.form Sample.world = some x ∧ x.files.paths.length = 2 ∧
      ∀ operation, ∃ y, entered? operation Sample.form Sample.world = some y ∧
        y.order = operation.marked x.order ∧
        (call y.engine y.order y.world).1 = (call x.engine x.order x.world).1 ∧
        (perform call operation Sample.form Sample.world).1 =
          (perform call .run Sample.form Sample.world).1 ∧
        (perform call .run Sample.form Sample.world).2.SameFiles
          (perform call operation Sample.form Sample.world).2 := by
  intro call
  have hentered : (entered? .run Sample.form Sample.world).map (fun x => x.files.paths.length) =
      some 2 := by decide +kernel
  rcases modes_differ_in_preview Sample.form Sample.world with
    ⟨f, v, hfails⟩ | ⟨x, hrun, hmodes⟩
  · rw [(hfails .run).1] at hentered
    cases hentered
  rw [hrun] at hentered
  refine ⟨x, hrun, Option.some.inj hentered, fun operation => ?_⟩
  obtain ⟨y, hy, hbeside, horder, hcalls⟩ := hmodes operation
  obtain ⟨-, hsame⟩ := hcalls call
  obtain ⟨houtcome, hapart⟩ := hsame rfl hbeside.world
  exact ⟨y, hy, horder, rfl, houtcome, hapart.files⟩

end Dispatch

end CampaignDesk
