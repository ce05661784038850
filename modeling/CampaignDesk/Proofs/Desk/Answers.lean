import CampaignDesk.Desk
import CampaignDesk.Proofs.Mild
import CampaignDesk.Proofs.Sample

/-!
# The desk always answers

* `Desk.Reports`: an answer tells how an operation has ended, with the words of the failure if there
  was one.
* `Desk.outcomeOf_reports`: a failure that is no request to stop becomes an answer.
* `desk_always_answers`: **every operation on a form or a job is answered**, whatever the form, the
  job and the database are, and however the engine and the system fail.
-/

namespace CampaignDesk

open Act

namespace Desk

variable {α : Type}

/-- The entries of an answer tell how an operation has ended. An error is there exactly if it has
failed, and says something. -/
structure Reports (outcome : Except Failure α) (entries : Entries) : Prop where
  succeeded : (∃ a, outcome = .ok a) ↔
    Value.lookup? "success" entries = some (.bool true) ∧ Value.lookup? "error" entries = none
  failed : ∀ f, outcome = .error f →
    Value.lookup? "success" entries = some (.bool false) ∧
      Value.lookup? "error" entries =
        some (.text (if f.message = [] then Text.ofString f.kind.name else f.message)) ∧
      Value.lookup? "message" entries = none
  spoken : Value.lookup? "error" entries ≠ some (.text [])

theorem errorOf_eq (f : Failure) :
    Outcome.errorOf f = if f.message = [] then Text.ofString f.kind.name else f.message := by
  unfold Outcome.errorOf Outcome.errorText
  simp only [List.isEmpty_iff]

/-! ## Outcomes as entries -/

theorem ok_entries (message jobs : Value) :
    Value.lookup? "success" (Outcome.ok message jobs).toEntries = some (.bool true) ∧
      Value.lookup? "error" (Outcome.ok message jobs).toEntries = none := by
  unfold Outcome.ok Outcome.toEntries
  cases message.isNull <;> cases jobs.isNull <;> exact ⟨rfl, rfl⟩

theorem ok_reports (a : α) (message jobs : Value) :
    Reports (.ok a : Except Failure α) (Outcome.ok message jobs).toEntries := by
  obtain ⟨hsuccess, herror⟩ := ok_entries message jobs
  refine ⟨⟨fun _ => ⟨hsuccess, herror⟩, fun _ => ⟨a, rfl⟩⟩, nofun, ?_⟩
  rw [herror]
  exact nofun

theorem failed_entries (f : Failure) (jobs : Value) :
    Value.lookup? "success" (Outcome.failed f jobs).toEntries = some (.bool false) ∧
      Value.lookup? "error" (Outcome.failed f jobs).toEntries = some (.text (Outcome.errorOf f)) ∧
      Value.lookup? "message" (Outcome.failed f jobs).toEntries = none := by
  unfold Outcome.failed Outcome.toEntries
  cases jobs.isNull <;> exact ⟨rfl, rfl, rfl⟩

theorem failed_reports (f : Failure) (jobs : Value) :
    Reports (.error f : Except Failure α) (Outcome.failed f jobs).toEntries := by
  obtain ⟨hsuccess, herror, hmessage⟩ := failed_entries f jobs
  refine ⟨⟨nofun, fun h => ?_⟩, ?_, fun hsilent => ?_⟩
  · rw [hsuccess] at h
    cases h.1
  · rintro g ⟨⟩
    rw [← errorOf_eq]
    exact ⟨hsuccess, herror, hmessage⟩
  · rw [herror] at hsilent
    have hempty : Outcome.errorOf f = [] := by
      injection hsilent with h
      injection h
    exact Outcome.errorOf_ne_nil f hempty

/-- A failure becomes an answer unless it asks to stop. -/
theorem outcomeOf_reports {f : Failure} (hf : f.kind.isOrdinary = true) (unexpected : Text)
    (jobs : Value) {w : World} (hw : w.Mild) :
    ∃ v, outcomeOf f unexpected jobs w = (.ok (.failed f jobs), v) ∧ v.Mild := by
  unfold outcomeOf
  split
  · exact ⟨w, rfl, hw⟩
  · exact ⟨_, rfl, (Mild.note _ w hw).1⟩

/-! ## Answers -/

/-- Something is answered, and the answer tells how the operation behind it has ended. -/
def Answers (asked : Act Outcome) (operation : Act α) (w : World) : Prop :=
  ∃ o v, asked w = (.ok o, v) ∧ v.Mild ∧ Reports (operation w).1 o.toEntries

theorem invoke_answers {operation : Act Unit} (hoperation : Act.Mild operation) (message : String)
    {w : World} (hw : w.Mild) : Answers (invoke operation message) operation w := by
  obtain ⟨hv, hordinary⟩ := hoperation w hw
  unfold Answers invoke
  rw [bind_ok (attempt_apply operation w)]
  rcases hrun : operation w with ⟨f | _, v⟩ <;> rw [hrun] at hv hordinary
  · obtain ⟨u, hanswer, hu⟩ := outcomeOf_reports (hordinary f rfl) _ .null hv
    exact ⟨_, u, hanswer, hu, failed_reports f _⟩
  · exact ⟨_, v, rfl, hv, ok_reports () _ _⟩

/-- The jobs that are answered: none if the operation failed. -/
def jobsOf : Except Failure (List Value) → List Value
  | .ok jobs => jobs
  | .error _ => []

theorem ok_jobs (message : Value) (jobs : List Value) :
    Value.lookup? "jobs" (Outcome.ok message (.list jobs)).toEntries = some (.list jobs) := by
  unfold Outcome.ok Outcome.toEntries
  cases message.isNull <;> rfl

theorem failed_jobs (f : Failure) (jobs : List Value) :
    Value.lookup? "jobs" (Outcome.failed f (.list jobs)).toEntries = some (.list jobs) := rfl

variable {call : Dispatch.Call} (hcall : ∀ e order, Act.Mild (call e order)) {w : World}
  (hw : w.Mild)

include hcall hw

theorem askJobs_answers (db : Value) :
    ∃ o v, askJobs call db w = (.ok o, v) ∧ v.Mild ∧
      Reports (Dispatch.listJobs call db w).1 o.toEntries ∧
      Value.lookup? "jobs" o.toEntries = some (.list (jobsOf (Dispatch.listJobs call db w).1)) := by
  obtain ⟨hv, hordinary⟩ := Dispatch.listJobs_mild hcall db w hw
  unfold askJobs
  rw [bind_ok (attempt_apply _ w)]
  rcases hrun : Dispatch.listJobs call db w with ⟨f | jobs, v⟩ <;> rw [hrun] at hv hordinary
  · obtain ⟨u, hanswer, hu⟩ :=
      outcomeOf_reports (hordinary f rfl) "Unexpected error listing jobs" (.list []) hv
    exact ⟨_, u, hanswer, hu, failed_reports f _, failed_jobs f []⟩
  · exact ⟨_, v, rfl, hv, ok_reports jobs _ _, ok_jobs _ jobs⟩

theorem ask_answers (operation : Campaign) {form : Except Failure Form} (hform : Ordinary form) :
    Answers (ask call operation form)
      (do Dispatch.perform call operation (← Act.settle form)) w :=
  invoke_answers ((Mild.settle hform).bind fun _ => Dispatch.perform_mild hcall operation _) _ hw

end Desk

/-- **The desk always answers.** Take a world in which no fault of the system, no working directory and
no announced engine asks to stop, and engines that return what they like or fail without asking to
stop. Then every campaign is answered, given as a payload of any kind or as a form with any values, and
so is every request to cancel a job or to list the jobs. The answer tells how the operation has ended:
there is an error exactly if it has failed, with the words of the failure or else the name of its
kind. -/
theorem desk_always_answers {call : Dispatch.Call} (hcall : ∀ e order, Act.Mild (call e order))
    {w : World} (hw : w.Mild) :
    (∀ operation payload, Desk.Answers (Desk.ask call operation (Form.ofPayload? payload))
      (do Dispatch.perform call operation (← Act.settle (Form.ofPayload? payload))) w) ∧
    (∀ operation form, Desk.Answers (Desk.ask call operation (.ok form))
      (Dispatch.perform call operation form) w) ∧
    (∀ job db, Desk.Answers (Desk.askCancel call job db) (Dispatch.cancelJob call job db) w) ∧
    ∀ db, ∃ o v, Desk.askJobs call db w = (.ok o, v) ∧ v.Mild ∧
      Desk.Reports (Dispatch.listJobs call db w).1 o.toEntries ∧
      Value.lookup? "jobs" o.toEntries =
        some (.list (Desk.jobsOf (Dispatch.listJobs call db w).1)) := by
  refine ⟨fun operation payload => ?_, fun operation form => ?_, fun job db => ?_, fun db => ?_⟩
  · exact Desk.ask_answers hcall hw operation (Form.ofPayload?_ordinary payload)
  · exact Desk.ask_answers hcall hw operation (ordinary_ok form)
  · exact Desk.invoke_answers (Dispatch.cancelJob_mild hcall job db) _ hw
  · exact Desk.askJobs_answers hcall hw db

/-- An engine fails without a word, and a payload is a number. -/
theorem desk_always_answers_sample :
    let call : Dispatch.Call := fun _ _ => throw (.new .runtimeError [])
    (∃ o v, Desk.ask call .run (Form.ofPayload? (.int 5)) Sample.world = (.ok o, v) ∧
      Value.lookup? "error" o.toEntries = some (.text "argument of type 'int' is not iterable")) ∧
    ∃ o v, Desk.ask call .run (.ok Sample.form) Sample.world = (.ok o, v) ∧
      Value.lookup? "error" o.toEntries = some (.text "ExecutionEngineError") := by
  intro call
  have hcall : ∀ e order, Act.Mild (call e order) := fun _ _ => Mild.throw rfl
  have hw : Sample.world.Mild := by
    refine ⟨List.forall_mem_nil _, ordinary_ok _, List.forall_mem_nil _⟩
  obtain ⟨hpayload, hform, -⟩ := desk_always_answers hcall hw
  obtain ⟨o, v, hanswer, -, hreports⟩ := hpayload .run (.int 5)
  obtain ⟨o', v', hanswer', -, hreports'⟩ := hform .run Sample.form
  refine ⟨⟨o, v, hanswer, ?_⟩, o', v', hanswer', ?_⟩
  · rw [(hreports.failed _ rfl).2.1]
    exact congrArg (some ∘ Value.text) (by decide +kernel)
  · have hfailed : (match (Dispatch.perform call .run Sample.form Sample.world).1 with
        | .error f => some (f.kind, f.message)
        | .ok _ => none) = some (.engineError, []) := by decide +kernel
    rcases hended : (Dispatch.perform call .run Sample.form Sample.world).1 with f | _ <;>
      rw [hended] at hfailed
    · obtain ⟨hkind, hmessage⟩ := Prod.mk.inj (Option.some.inj hfailed)
      rw [(hreports'.failed f hended).2.1, if_pos hmessage, hkind]
      rfl
    · cases hfailed

end CampaignDesk
