import CampaignDesk.Proofs.Dispatch.Leaving
import CampaignDesk.Proofs.Order.Refusals

/-!
# Failures of an engine keep their identity

Six operations call an engine. What fails while the engine is found or called leaves an operation as
what it is, or as the cause of a failure of the desk; nothing that happens on the way out puts another
failure in its place.

* `Operation`: the six operations; `Operation.accepted?`: the order and the files of an operation whose
  input is accepted.
* `perform_accepted`: **an accepted operation is what it asks the engine, and what comes after that.**
* `Operation.refused_isDesk`: an input that is not accepted is refused with a failure of the desk.
* `engine_failures_keep_identity`: what leaves an operation when an engine fails.
-/

namespace CampaignDesk.Dispatch

open Store World Act

/-- An operation that calls an engine, with its input. -/
inductive Operation
  | campaign (operation : Campaign) (form : Form)
  | listJobs (db : Value)
  | cancelJob (job db : Value)
  | runScheduler (db : Value)

/-- What an operation has made of an accepted input before it asks an engine. -/
structure Accepted where
  order : Order
  files : TempFiles
  world : World

/-- No temporary files. -/
def noFiles : TempFiles := TempFiles.none .null TempFiles.defaultStem

namespace Operation

/-- What an operation is called in the log. -/
def name : Operation → String
  | .campaign operation _ => operationName operation
  | .listJobs _ => "list_jobs"
  | .cancelJob _ _ => "cancel_job"
  | .runScheduler _ => "scheduler"

/-- The operation. What it returns does not matter here. -/
def perform (call : Call) : Operation → Act Unit
  | .campaign operation form => Dispatch.perform call operation form
  | .listJobs db => do let _ ← Dispatch.listJobs call db
  | .cancelJob job db => Dispatch.cancelJob call job db
  | .runScheduler db => Dispatch.runScheduler call db

/-- The order, the files and the world that an operation asks an engine with. -/
def accepted? : Operation → World → Option Accepted
  | .campaign operation form, w =>
    match Preparation.prepare form (.bool (operation = .preview)) w.service.tempDir w with
    | (.ok (order, files), v) => some ⟨order, files, v⟩
    | (.error _, _) => none
  | .listJobs db, w =>
    match Defaults.ifBlank? db Defaults.schedulerDb with
    | .ok d => some ⟨listOrder d, noFiles, w⟩
    | .error _ => none
  | .cancelJob job db, w =>
    match Defaults.isBlank? job, Defaults.ifBlank? db Defaults.schedulerDb with
    | .ok false, .ok d => some ⟨cancelOrder job d, noFiles, w⟩
    | _, _ => none
  | .runScheduler db, w =>
    match Defaults.ifBlank? db Defaults.schedulerDb with
    | .ok d => some ⟨schedulerOrder d, noFiles, w⟩
    | .error _ => none

/-- The input has the types that are declared for it. -/
def Declared : Operation → Prop
  | .campaign _ form => form.Textual ∧ Attachments.Offered (form.get .attachments)
  | .listJobs db | .runScheduler db => db.IsText
  | .cancelJob job db => job.IsText ∧ db.IsText

end Operation

/-- How the engine was found and called on behalf of an accepted operation. -/
def asked (call : Call) (op : Operation) (x : Accepted) : Except Failure Value × World :=
  (announce op.name >>= fun e => call e x.order) x.world

/-! ## Accepted operations -/

variable {op : Operation} {w v : World} {x : Accepted}

/-- Without files there is nothing to release. -/
theorem conclude_noFiles (operation : String) (ended : Except Failure Value × World) :
    conclude operation noFiles ended = (do let _ ← closing operation ended.1 : Act Unit) ended.2 := by
  have hnone (v : World) : noFiles.release v = (.ok (), v) := rfl
  rw [conclude, ensure_apply, hnone]
  rfl

/-- **An accepted operation is what it asks the engine, and what comes after that.** -/
theorem perform_accepted (h : op.accepted? w = some x) (call : Call) :
    op.perform call w = conclude op.name x.files (asked call op x) := by
  cases op with
  | campaign operation form =>
    simp only [Operation.accepted?] at h
    rcases hprep : Preparation.prepare form (.bool (operation = .preview)) w.service.tempDir w with
      ⟨f | ⟨order, files⟩, v⟩ <;> rw [hprep] at h <;> cases h
    rw [Operation.perform, Dispatch.perform, Act.bind_apply, Act.get_apply]
    simp only
    rw [Act.bind_ok hprep, conclude, ensure_apply, ensure_apply]
    simp only [callEngine_bind]
    rfl
  | listJobs db =>
    simp only [Operation.accepted?] at h
    rcases hdb : Defaults.ifBlank? db Defaults.schedulerDb with f | d <;> rw [hdb] at h <;> cases h
    rw [conclude_noFiles, Operation.perform, Dispatch.listJobs, Act.bind_apply,
      Act.bind_ok (database_of_ifBlank hdb w), callEngine_bind, asked, Act.bind_apply,
      Act.bind_apply (closing _ _)]
    -- the job records are made of what was returned, and that cannot fail
    simp only [Operation.name]
    rcases closing "list_jobs" _ _ with ⟨f | returned, u⟩ <;> rfl
  | cancelJob job db =>
    simp only [Operation.accepted?] at h
    rcases hjob : Defaults.isBlank? job with f | _ | _ <;>
      rcases hdb : Defaults.ifBlank? db Defaults.schedulerDb with f | d <;> rw [hjob, hdb] at h <;>
      cases h
    have hb : settle (Defaults.isBlank? job) w = (.ok false, w) := by rw [settle_apply, hjob]
    rw [conclude_noFiles, Operation.perform, Dispatch.cancelJob, Act.bind_ok hb]
    simp only [Bool.false_eq_true, if_false]
    rw [Act.bind_ok (database_of_ifBlank hdb w), callEngine_bind]
    rfl
  | runScheduler db =>
    simp only [Operation.accepted?] at h
    rcases hdb : Defaults.ifBlank? db Defaults.schedulerDb with f | d <;> rw [hdb] at h <;> cases h
    rw [conclude_noFiles, Operation.perform, runScheduler_apply hdb, callEngine_bind]
    rfl

/-- The files of an accepted operation are still to be released, and the system takes their paths. -/
theorem accepted_files (h : op.accepted? w = some x) :
    x.files.released = false ∧ (∀ path ∈ x.files.paths, path.Clean) ∧
      (w.SystemFaults → x.world.SystemFaults) := by
  cases op with
  | campaign operation form =>
    simp only [Operation.accepted?] at h
    rcases Preparation.prepare_cases form (.bool (operation = .preview)) w.service.tempDir w with
      ⟨f, v, hprep, -⟩ | ⟨order, files, v, hprep, hdrafted⟩ <;> rw [hprep] at h <;> cases h
    exact ⟨hdrafted.unreleased, hdrafted.clean,
      fun hw fault hfault => hw fault (hdrafted.same.faults ▸ hfault)⟩
  | listJobs | cancelJob | runScheduler =>
    simp only [Operation.accepted?] at h
    split at h <;> cases h
    exact ⟨rfl, nofun, id⟩

/-! ## Inputs that are not accepted -/

/-- What a preparation fails with is one of the desk's own failures. -/
theorem verdict_isDesk {form : Form} {directory : Value} {w : World}
    {ended : Except Failure (Order × TempFiles) × World}
    (h : Preparation.Verdict form directory w ended) {f : Failure} (hf : ended.1 = .error f) :
    f.kind.isDesk = true := by
  have hkind {kind : Kind} (hfails : Preparation.FailsAs kind ended.1) : f.kind = kind := by
    rw [hf] at hfails
    exact Preparation.failsAs_error.1 hfails
  -- the first of the stages that does not pass decides
  rcases hname : Preparation.inline? (form.get .envPath) with _ | p
  · rw [hkind (h.missing.2 hname)]
    decide
  rcases hexists : w.store.exists p with _ | _
  · rw [hkind (h.notFound.2 ⟨p, hname, hexists⟩)]
    decide
  have hfound : Preparation.Found form w := ⟨p, hname, hexists⟩
  by_cases hlisted : Attachments.Listed (form.get .attachments)
  · rcases hclear : Preparation.draftObstacle? form (Preparation.unmade directory) w with _ | o
    · obtain ⟨result, hok⟩ := h.prepared.2 ⟨hfound, hlisted, hclear⟩
      cases hok.symm.trans hf
    · rw [hkind (h.unwritten.2 ⟨hfound, hlisted, o, hclear⟩)]
      decide
  · rw [hkind (h.refused.2 ⟨hfound, hlisted⟩)]
    decide

/-- **An input of the declared types that is not accepted is refused with a failure of the desk**, and no
engine is asked. -/
theorem Operation.refused_isDesk (hdeclared : op.Declared) (hfaults : w.SystemFaults)
    (hcwd : ∀ f, w.cwd = .error f → (f.kind.isA .osError || f.kind.isA .valueError) = true)
    (hdirectory : Drafting.Admits w w.service.tempDir) (h : op.accepted? w = none) (call : Call)
    {f : Failure} (hf : (op.perform call w).1 = .error f) : f.kind.isDesk = true := by
  cases op with
  | campaign operation form =>
    have hverdict := Preparation.prepare_verdict hdeclared.1 hdeclared.2 hcwd
      ⟨hfaults, hdirectory, rfl⟩ (.bool (operation = .preview))
    simp only [accepted?] at h
    rcases hprep : Preparation.prepare form (.bool (operation = .preview)) w.service.tempDir w with
      ⟨g | ⟨order, files⟩, v⟩ <;> rw [hprep] at h hverdict
    · have hsame : Operation.perform call (.campaign operation form) w = (.error g, v) :=
        perform_unprepared hprep call
      rw [hsame] at hf
      cases hf
      exact verdict_isDesk hverdict rfl
    · cases h
  | listJobs db | runScheduler db =>
    obtain ⟨d, hd⟩ := Defaults.ifBlank?_of_isText hdeclared Defaults.schedulerDb
    simp only [accepted?, hd] at h
    cases h
  | cancelJob job db =>
    obtain ⟨d, hd⟩ := Defaults.ifBlank?_of_isText hdeclared.2 Defaults.schedulerDb
    have hjob := Defaults.isBlank?_of_isText hdeclared.1
    simp only [accepted?, hd, hjob] at h
    rcases hblank : (Preparation.inline? job).isNone with _ | _
    · rw [hblank] at h
      cases h
    · -- only a job without a name is left
      have hb : settle (Defaults.isBlank? job) w = (.ok true, w) := by
        rw [settle_apply, hjob, hblank]
      rw [perform, Dispatch.cancelJob, Act.bind_ok hb] at hf
      cases hf
      decide

/-! ## Failures that leave an operation -/

/-- What is passed on of a failure is ordinary only as a failure of the desk. -/
theorem passedOn_isDesk_of_isOrdinary {f : Failure} (h : (passedOn f).kind.isOrdinary = true) :
    (passedOn f).kind.isDesk = true := by
  by_cases hf : f.kind.isOrdinary = true
  · exact passedOn_isDesk hf
  · have hsame : passedOn f = f := by
      rw [passedOn, Bool.eq_false_iff.2 hf, Bool.not_false, Bool.or_true, if_pos rfl]
    rw [hsame] at h
    exact absurd h hf

/-- What leaves an operation once the engine has failed with `f`, in the world `v`: **the failure itself if
it is one of the desk's own or asks to stop, and else a failure of the engine with the same message that
comes from it.** Every path of the operation's files has been tried before, so that where the system
removes files none is left; and what engines would do if they were asked again does not matter. -/
structure Identified (op : Operation) (w : World) (x : Accepted) (f : Failure) (v : World)
    (ended : Except Failure Unit × World) : Prop where
  own : f.kind.isDesk = true → ended.1 = .error f
  wrapped : f.kind.isOrdinary = true → f.kind.isDesk = false →
    ended.1 = .error ⟨.engineError, f.message, (f.kind, f.message) :: f.causes, none⟩
  stop : f.kind.isOrdinary = false → ended.1 = .error f
  tried : ∃ attempts, attempts.map Attempt.path = x.files.paths ∧ v.Cleared attempts ended.2
  released : v.Spares .remove → ∀ path ∈ x.files.paths, ∀ l, v.store.Names path l →
    ∀ content, ended.2.store.node? l ≠ some (.file content)
  once : ∀ call, asked call op x = (.error f, v) → op.perform call w = ended

/-- The way out of an operation whose engine has failed. -/
theorem identified (h : op.accepted? w = some x) {call : Call} {f : Failure}
    (hasked : asked call op x = (.error f, v)) (hfaults : v.RemovalFaults) :
    Identified op w x f v (op.perform call w) := by
  obtain ⟨hunreleased, hclean, -⟩ := accepted_files h
  obtain ⟨attempts, u, hconclude, hmap, hcleared⟩ :=
    conclude_apply op.name hunreleased hclean (.error f, v) hfaults
  have hrun (call' : Call) (hcall : asked call' op x = (.error f, v)) :
      op.perform call' w = (.error (passedOn f), u) := by
    rw [perform_accepted h, hcall, hconclude]
    rfl
  rw [hrun call hasked]
  refine ⟨fun hdesk => ?_, fun hordinary hdesk => ?_, fun hstop => ?_, ⟨attempts, hmap, hcleared⟩,
    fun hspares path hpath l hnames content hfile => ?_, hrun⟩
  · rw [passedOn, hdesk, Bool.true_or, if_pos rfl]
  · rw [passedOn, hdesk, hordinary]
    rfl
  · rw [passedOn, hstop, Bool.not_false, Bool.or_true, if_pos rfl]
  · -- a file that is left would have been there before, and been removed
    by_cases hbefore : ∃ content, v.store.node? l = some (.file content)
    · obtain ⟨content', hcontent⟩ := hbefore
      obtain ⟨i, hi⟩ := List.getElem?_of_mem hpath
      have hgone := (hcleared.gone_iff hcontent).2 ⟨i, path, hmap ▸ hi, hnames, hspares.faultAt? _⟩
      cases hfile.symm.trans hgone
    · have hsame := hcleared.unfiled fun c hc => hbefore ⟨c, hc⟩
      exact hbefore ⟨content, hsame.symm.trans hfile⟩

/-- **Failures of an engine keep their identity.** When finding or calling the engine fails on behalf of
an accepted operation, and removals fail with errors of the system only, what leaves the operation is
that failure, identified. And if an operation is given an input of the declared types, the system fails
with errors of its own only, before the engine is called and after, and the directory for temporary files
is admitted, then every ordinary failure that leaves it is one of the desk's own. -/
theorem engine_failures_keep_identity (op : Operation) (w : World) (call : Call) :
    (∀ x f v, op.accepted? w = some x → asked call op x = (.error f, v) → v.RemovalFaults →
      Identified op w x f v (op.perform call w)) ∧
    (op.Declared → w.SystemFaults →
      (∀ f, w.cwd = .error f → (f.kind.isA .osError || f.kind.isA .valueError) = true) →
      Drafting.Admits w w.service.tempDir →
      (∀ e order v, v.SystemFaults → (call e order v).2.SystemFaults) →
      ∀ f, (op.perform call w).1 = .error f → f.kind.isOrdinary = true → f.kind.isDesk = true) := by
  refine ⟨fun x f v h hasked hfaults => identified h hasked hfaults, ?_⟩
  intro hdeclared hfaults hcwd hdirectory hcall f hf hordinary
  rcases haccepted : op.accepted? w with _ | x
  · exact op.refused_isDesk hdeclared hfaults hcwd hdirectory haccepted call hf
  -- the engine has been asked, and the system is as it was
  obtain ⟨hunreleased, hclean, hkept⟩ := accepted_files haccepted
  have hasked : (asked call op x).2.SystemFaults := by
    have hbefore := announce_sameBut op.name x.world
    rw [asked, Act.bind_apply]
    rcases hann : announce op.name x.world with ⟨g | e, v⟩ <;> rw [hann] at hbefore
    · exact fun fault hfault => hkept hfaults fault (hbefore.faults ▸ hfault)
    · exact hcall e x.order v fun fault hfault => hkept hfaults fault (hbefore.faults ▸ hfault)
  obtain ⟨attempts, u, hconclude, -⟩ :=
    conclude_apply op.name hunreleased hclean (asked call op x) hasked.removal
  rw [perform_accepted haccepted, hconclude] at hf
  rcases hended : (asked call op x).1 with g | returned <;> rw [hended] at hf <;> cases hf
  exact passedOn_isDesk_of_isOrdinary hordinary

/-- An engine that cannot reach anyone makes the sample form fail. Its failure leaves as the cause of a
failure of the engine, with the same message. -/
theorem engine_failures_keep_identity_sample :
    let unreachable := Failure.valueError "no route to host"
    let call : Call := fun _ _ => throw unreachable
    let op := Operation.campaign .run Sample.form
    ∃ x v, op.accepted? Sample.world = some x ∧ asked call op x = (.error unreachable, v) ∧
      v.RemovalFaults ∧ op.Declared ∧ Sample.world.SystemFaults ∧
      (∀ f, Sample.world.cwd = .error f → (f.kind.isA .osError || f.kind.isA .valueError) = true) ∧
      Drafting.Admits Sample.world Sample.world.service.tempDir ∧
      (∀ e order v, v.SystemFaults → (call e order v).2.SystemFaults) ∧
      Identified op Sample.world x unreachable v (op.perform call Sample.world) ∧
      (op.perform call Sample.world).1 = .error ⟨.engineError, "no route to host",
        [(.valueError, "no route to host")], none⟩ ∧
      Kind.isDesk .engineError = true := by
  intro unreachable call op
  -- the form is accepted, the engine is found, and fails; no fault has come up
  have hcourse : (match op.accepted? Sample.world with
      | some x => (match asked call op x with
        | (.error f, v) => decide (f = unreachable) && v.faults.isEmpty
        | (.ok _, _) => false)
      | none => false) = true := by decide +kernel
  rcases hx : op.accepted? Sample.world with _ | x <;> rw [hx] at hcourse
  · cases hcourse
  rcases hended : asked call op x with ⟨f | returned, v⟩ <;> simp only [hended] at hcourse
  · obtain ⟨hf, hnone⟩ := Bool.and_eq_true_iff.1 hcourse
    obtain rfl := of_decide_eq_true hf
    have hfaults : v.RemovalFaults := by
      intro fault hfault
      rw [List.isEmpty_iff.1 hnone] at hfault
      cases hfault
    have hform : Sample.form.Textual := by
      intro field hfield
      cases field <;> first | exact .inr ⟨_, rfl⟩ | exact nomatch hfield
    have hdeclared : op.Declared := ⟨hform, .inr ⟨[], rfl⟩⟩
    have hsystem : Sample.world.SystemFaults := List.forall_mem_nil _
    have hcwd : ∀ f, Sample.world.cwd = .error f →
        (f.kind.isA .osError || f.kind.isA .valueError) = true := nofun
    have hdirectory : Drafting.Admits Sample.world Sample.world.service.tempDir :=
      .inl ⟨rfl, by change Text.Clean "/tmp"; decide⟩
    have hcall : ∀ e order v, v.SystemFaults → (call e order v).2.SystemFaults :=
      fun _ _ _ hv => hv
    obtain ⟨hidentified, hdesk⟩ := engine_failures_keep_identity op Sample.world call
    have hway := hidentified x unreachable v hx hended hfaults
    have hwrapped := hway.wrapped (by decide) (by decide)
    exact ⟨x, v, rfl, hended, hfaults, hdeclared, hsystem, hcwd, hdirectory, hcall, hway, hwrapped,
      hdesk hdeclared hsystem hcwd hdirectory hcall _ hwrapped (by decide)⟩
  · cases hcourse

end CampaignDesk.Dispatch
