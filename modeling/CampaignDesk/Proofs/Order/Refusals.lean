import CampaignDesk.Proofs.Dispatch.Form
import CampaignDesk.Proofs.Sample
import CampaignDesk.Proofs.TempFiles.Removal

/-!
# Why an order is not prepared

The stages of a preparation fail in order: the mail server configuration, the attachments, the template,
the recipients.

* `Attachments.normalize?_outcome`: attachments are refused exactly if they are a single text, or one of
  them is no text.
* `Preparation.draftObstacle?`: the first thing in the way of the files of a form.
* `Preparation.draft_hindered`: a draft fails exactly if something is in the way.
* `Preparation.Verdict`: how a preparation ends, each way with the condition under which it does.
* `refused_in_order`: **a preparation ends as its verdict says, and an engine is called exactly if there
  is an order.**
-/

namespace CampaignDesk

open Store World Act Drafting

/-! ## Forms as they are filled in -/

/-- A field that is filled in with a text. -/
def Form.Field.isText : Form.Field → Bool
  | .attachments | .concurrency | .retryLimit | .batchSize | .previewPort | .jobRetries => false
  | .dryRun | .showPreview => false
  | _ => true

/-- A value that is absent or a text. -/
def Value.IsText (v : Value) : Prop := v = .null ∨ ∃ t, v = .text t

/-- Every field for a text holds one, or nothing. -/
def Form.Textual (form : Form) : Prop := ∀ f : Form.Field, f.isText = true → (form.get f).IsText

theorem Defaults.isBlank?_of_isText {v : Value} (h : v.IsText) :
    isBlank? v = .ok (Preparation.inline? v).isNone := by
  rcases h with rfl | ⟨t, rfl⟩
  · rfl
  · cases hblank : t.isBlank <;> simp [isBlank?, Preparation.inline?, hblank]

theorem Defaults.ifBlank?_of_isText {v : Value} (h : v.IsText) (default : Value) :
    ∃ value, ifBlank? v default = .ok value := by
  unfold ifBlank?
  rw [isBlank?_of_isText h]
  exact ⟨_, rfl⟩

theorem Preparation.inline?_eq_some {v : Value} {t : Text} (h : inline? v = some t) :
    v = .text t := by
  cases v with
  | text s =>
    simp only [inline?] at h
    split at h
    · cases h
    · exact congrArg Value.text (Option.some.inj h)
  | null | bool | int | float | list | tuple | dict => cases h

/-! ## Attachments -/

namespace Attachments

/-- A value that is absent, a text, or a list. -/
def Offered (v : Value) : Prop := v.IsText ∨ ∃ items, v = .list items

/-- Nothing, or a list in which every entry is a text or absent. -/
def Listed : Value → Prop
  | .null => True
  | .list items => ∀ x ∈ items, x.IsText
  | _ => False

variable {cwd : Except Failure Text}
  (hcwd : ∀ f, cwd = .error f → (f.kind.isA .osError || f.kind.isA .valueError) = true)

include hcwd

theorem resolved?_ok (path : Text) : ∃ p, resolved? cwd path = .ok p := by
  unfold resolved?
  split
  · exact ⟨_, rfl⟩
  · cases cwd with
    | ok directory => exact ⟨_, rfl⟩
    | error f =>
      simp only [hcwd f rfl, if_true]
      exact ⟨_, rfl⟩

theorem keep?_ok {entry : Value} (hentry : entry.IsText) (kept : List Text) :
    ∃ paths, keep? cwd kept entry = .ok paths := by
  rcases hentry with rfl | ⟨path, rfl⟩
  · exact ⟨_, rfl⟩
  · unfold keep?
    simp only
    split
    · exact ⟨_, rfl⟩
    · obtain ⟨p, hp⟩ := resolved?_ok hcwd path
      rw [hp]
      exact ⟨_, rfl⟩

omit hcwd in
theorem keep?_error {entry : Value} (hentry : ¬ entry.IsText) (kept : List Text) :
    keep? cwd kept entry = .error (notText entry) := by
  cases entry with
  | null => exact absurd (.inl rfl) hentry
  | text t => exact absurd (.inr ⟨t, rfl⟩) hentry
  | bool | int | float | list | tuple | dict => rfl

/-- Entries are kept one after the other up to the first that is no text. -/
theorem foldlM_keep?_outcome (items : List Value) (kept : List Text) :
    ((∀ x ∈ items, x.IsText) ∧ ∃ paths, items.foldlM (keep? cwd) kept = .ok paths) ∨
      ∃ x ∈ items, ¬ x.IsText ∧ items.foldlM (keep? cwd) kept = .error (notText x) := by
  induction items generalizing kept with
  | nil => exact .inl ⟨List.forall_mem_nil _, kept, rfl⟩
  | cons x rest ih =>
    rw [List.foldlM_cons]
    by_cases hx : x.IsText
    · obtain ⟨paths, hkeep⟩ := keep?_ok hcwd hx kept
      rw [hkeep]
      rcases ih paths with ⟨hrest, more, hmore⟩ | ⟨y, hy, hy', herror⟩
      · exact .inl ⟨List.forall_mem_cons.2 ⟨hx, hrest⟩, more, hmore⟩
      · exact .inr ⟨y, List.mem_cons_of_mem x hy, hy', herror⟩
    · rw [keep?_error hx]
      exact .inr ⟨x, List.mem_cons_self, hx, rfl⟩

/-- **Attachments are refused exactly if they are a single text, or one of them is no text.** -/
theorem normalize?_outcome {v : Value} (hv : Offered v) :
    (Listed v ∧ ∃ paths, normalize? cwd v = .ok paths) ∨
      (¬ Listed v ∧ ∃ f, normalize? cwd v = .error f ∧ f.kind = .fieldRefused) := by
  rcases hv with (rfl | ⟨t, rfl⟩) | ⟨items, rfl⟩
  · exact .inl ⟨trivial, [], rfl⟩
  · exact .inr ⟨fun h => h, _, rfl, rfl⟩
  · have hcollect : normalize? cwd (.list items) = items.foldlM (keep? cwd) [] := by
      cases items <;> rfl
    rw [hcollect]
    rcases foldlM_keep?_outcome hcwd items [] with ⟨hall, hok⟩ | ⟨x, hx, hx', herror⟩
    · exact .inl ⟨hall, hok⟩
    · exact .inr ⟨fun hall => hx' (hall x hx), _, herror, rfl⟩

end Attachments

namespace Preparation

variable {form : Form} {w v : World} {t : TempFiles}

/-! ## The mail server configuration -/

/-- The mail server configuration is named and exists. -/
def Found (form : Form) (w : World) : Prop :=
  ∃ p, inline? (form.get .envPath) = some p ∧ w.store.exists p = true

/-- **The mail server configuration is missing exactly if it is not named, and not found exactly if what
is named does not exist.** -/
theorem checkServerConfig_outcome (hform : form.Textual) (w : World) :
    (inline? (form.get .envPath) = none ∧ ∃ f, f.kind = .serverConfigMissing ∧
      checkServerConfig (form.get .envPath) w = (.error f, w)) ∨
    (∃ p, inline? (form.get .envPath) = some p ∧ w.store.exists p = false ∧
      ∃ f, f.kind = .serverConfigNotFound ∧
        checkServerConfig (form.get .envPath) w = (.error f, w)) ∨
    (Found form w ∧ checkServerConfig (form.get .envPath) w = (.ok (), w)) := by
  have hblank := Defaults.isBlank?_of_isText (hform .envPath rfl)
  unfold checkServerConfig
  rw [Act.bind_apply, settle_apply, hblank]
  rcases hname : inline? (form.get .envPath) with _ | p
  · exact .inl ⟨rfl, _, rfl, rfl⟩
  · rw [inline?_eq_some hname]
    simp only [Option.isNone_some, Bool.false_eq_true, if_false, Act.bind_apply, Act.get_apply]
    rcases hexists : w.store.exists p with _ | _
    · exact .inr (.inl ⟨p, rfl, hexists, _, rfl, rfl⟩)
    · exact .inr (.inr ⟨⟨p, hname, hexists⟩, rfl⟩)

/-! ## The draft -/

/-- What is in the way of the file of the template. -/
def templateObstacle? (form : Form) (t : TempFiles) (w : World) : Option Obstacle :=
  (inline? (form.get .templateHtml)).bind fun content => obstacle? t content ".html" "template" w

/-- What is in the way of the file of the recipients. -/
def recipientsObstacle? (form : Form) (t : TempFiles) (w : World) : Option Obstacle :=
  (inlineRecipients? form).bind fun content => obstacle? t content ".csv" "CSV" w

/-- The first thing in the way of the files of a form. The recipients come when the template has been
written. -/
def draftObstacle? (form : Form) (t : TempFiles) (w : World) : Option Obstacle :=
  (templateObstacle? form t w).or
    (recipientsObstacle? form (template form t w).1.2 (template form t w).2)

/-- A set of files that the system lets be written. -/
structure Ready (t : TempFiles) (w : World) : Prop where
  faults : w.SystemFaults
  directory : Admits w t.directory
  stem : t.stem = TempFiles.defaultStem

theorem Ready.supplied {content : Option Text} {kept value : Value} {t' : TempFiles}
    (h : Ready t w) (hsupplied : Supplied content kept t w value t' v) : Ready t' v := by
  cases content with
  | none =>
    obtain ⟨-, rfl, rfl⟩ := hsupplied
    exact h
  | some content =>
    obtain ⟨path, l, bytes, -, rfl, hmade, -⟩ := hsupplied
    refine ⟨fun fault hfault => h.faults fault (hmade.same.faults ▸ hfault), ?_, h.stem⟩
    rcases h.directory with ⟨hnull, hd⟩ | htext
    · exact .inl ⟨hnull, hmade.home ▸ hd⟩
    · exact .inr htext

/-- The path of a fresh file, as a value. -/
def fresh (content suffix label : Text) : Drafting Value := do
  return .text (← write content suffix label)

theorem Ready.fresh_hindered (h : Ready t w) (content label : Text) {suffix : Text}
    (hsuffix : suffix.Clean) :
    Hindered (obstacle? t content suffix label w) (fresh content suffix label t w).1.1 := by
  have hstem : t.stem.Clean := by
    rw [h.stem]
    decide
  have hwrite := write_hindered content label h.faults h.directory hstem hsuffix
  rw [← Option.or_none (o := obstacle? t content suffix label w)]
  exact hwrite.bind fun path _ => ⟨.text path, rfl⟩

/-- The file of the template is written exactly if nothing is in the way. -/
theorem template_hindered (hform : form.Textual) (h : Ready t w) :
    Hindered (templateObstacle? form t w) (template form t w).1.1 := by
  have hblank := Defaults.isBlank?_of_isText (hform .templateHtml rfl)
  rw [templateObstacle?, template, Drafting.bind_apply]
  simp only [lift_apply, settle_apply, hblank]
  rcases hcontent : inline? (form.get .templateHtml) with _ | content
  · exact ⟨_, rfl⟩
  · rw [inline?_eq_some hcontent]
    exact h.fresh_hindered content "template" (by decide : Text.Clean ".html")

/-- The file of the recipients is written exactly if nothing is in the way. -/
theorem recipients_hindered (hform : form.Textual) (h : Ready t w) :
    Hindered (recipientsObstacle? form t w) (recipients form t w).1.1 := by
  have hpath := Defaults.isBlank?_of_isText (hform .csvPath rfl)
  have hblank := Defaults.isBlank?_of_isText (hform .csvContent rfl)
  rw [recipientsObstacle?, inlineRecipients?, recipients, Drafting.bind_apply]
  simp only [lift_apply, settle_apply, hpath]
  rcases inline? (form.get .csvPath) with _ | path
  · simp only [Option.isNone_none, Bool.not_true, Bool.false_eq_true, if_false]
    rw [Drafting.bind_apply]
    simp only [lift_apply, settle_apply, hblank]
    rcases hcontent : inline? (form.get .csvContent) with _ | content
    · exact ⟨_, rfl⟩
    · rw [inline?_eq_some hcontent]
      exact h.fresh_hindered content "CSV" (by decide : Text.Clean ".csv")
  · exact ⟨_, rfl⟩

/-- Every field of an order has a value. -/
theorem order?_ok (hform : form.Textual) (forcePreview template recipients : Value)
    (attachments : List Text) :
    ∃ order, order? form forcePreview template recipients attachments = .ok order := by
  obtain ⟨backoff, hbackoff⟩ :=
    Defaults.ifBlank?_of_isText (hform .jobBackoff rfl) Defaults.jobBackoff
  obtain ⟨db, hdb⟩ := Defaults.ifBlank?_of_isText (hform .schedulerDb rfl) Defaults.schedulerDb
  unfold order?
  rw [hbackoff, hdb]
  exact ⟨_, rfl⟩

/-- **A draft fails exactly if something is in the way of its files**, and the failure says what. -/
theorem draft_hindered (hform : form.Textual) (h : Ready t w) (forcePreview : Value)
    (attachments : List Text) :
    Hindered (draftObstacle? form t w) (draft form forcePreview attachments t w).1.1 := by
  refine (template_hindered hform h).bind fun value hvalue => ?_
  -- the recipients come to a world in which the same can be relied on
  have hready : Ready (template form t w).1.2 (template form t w).2 :=
    h.supplied (template_ok h.stem (Prod.ext (Prod.ext hvalue rfl) rfl))
  rw [← Option.or_none (o := recipientsObstacle? form _ _)]
  refine (recipients_hindered hform hready).bind fun value' _ => ?_
  exact order?_ok hform forcePreview value value' attachments

/-! ## The verdict -/

/-- The outcome is a failure of a kind. -/
def FailsAs {α : Type} (kind : Kind) (outcome : Except Failure α) : Prop :=
  ∃ f, outcome = .error f ∧ f.kind = kind

@[simp] theorem failsAs_error {α : Type} {kind : Kind} {f : Failure} :
    FailsAs kind (.error f : Except Failure α) ↔ f.kind = kind :=
  ⟨fun ⟨_, herror, hkind⟩ => Except.error.inj herror ▸ hkind, fun hkind => ⟨f, rfl, hkind⟩⟩

@[simp] theorem not_failsAs_ok {α : Type} {kind : Kind} {a : α} : ¬ FailsAs kind (.ok a) := nofun

/-- The files of a form before any of them is made. -/
def unmade (directory : Value) : TempFiles := TempFiles.none directory TempFiles.defaultStem

/-- **How a preparation ends**, each way with the condition under which it does. -/
structure Verdict (form : Form) (directory : Value) (w : World)
    (ended : Except Failure (Order × TempFiles) × World) : Prop where
  missing : FailsAs .serverConfigMissing ended.1 ↔ inline? (form.get .envPath) = none
  notFound : FailsAs .serverConfigNotFound ended.1 ↔
    ∃ p, inline? (form.get .envPath) = some p ∧ w.store.exists p = false
  refused : FailsAs .fieldRefused ended.1 ↔
    Found form w ∧ ¬ Attachments.Listed (form.get .attachments)
  unwritten : FailsAs .tempWriteFailed ended.1 ↔ Found form w ∧
    Attachments.Listed (form.get .attachments) ∧ ∃ o, draftObstacle? form (unmade directory) w = some o
  because : ∀ what label f, Found form w → Attachments.Listed (form.get .attachments) →
    draftObstacle? form (unmade directory) w = some (what, label, f) →
    ended.1 = .error (failed what label f)
  prepared : (∃ result, ended.1 = .ok result) ↔ Found form w ∧
    Attachments.Listed (form.get .attachments) ∧ draftObstacle? form (unmade directory) w = none
  untouched : ¬ (Found form w ∧ Attachments.Listed (form.get .attachments)) → ended.2 = w

/-- The draft decides what becomes of a form whose first two stages have passed. -/
theorem prepare_of_passed {paths : List Text} (forcePreview directory : Value)
    (hcheck : checkServerConfig (form.get .envPath) w = (.ok (), w))
    (hpaths : Attachments.normalize? w.cwd (form.get .attachments) = .ok paths)
    (hw : w.SystemFaults) :
    (prepare form forcePreview directory w).1 =
      (draft form forcePreview paths (unmade directory) w).1.1.map fun order =>
        (order, (draft form forcePreview paths (unmade directory) w).1.2) := by
  have hattach : attachments (form.get .attachments) w = (.ok paths, w) := by
    rw [← hpaths]
    rfl
  have hdrafted := drafts_closed.draft form forcePreview paths (Drafted.none w directory)
  rw [prepare, bind_ok hcheck, bind_ok hattach]
  simp only [TempFiles.run, Act.bind_apply, unmade]
  rcases hrun : draft form forcePreview paths (TempFiles.none directory TempFiles.defaultStem) w with
    ⟨⟨f | order, files⟩, v⟩ <;> rw [hrun] at hdrafted
  · -- what is released after a failed draft is released without a failure
    have hv : v.SystemFaults := fun fault hfault => hw fault (hdrafted.same.faults ▸ hfault)
    have hreleased := release_ok hdrafted.unreleased hv.removal hdrafted.clean
    simp only [Act.bind_apply] at hreleased ⊢
    rcases hrel : files.release v with ⟨g | _, u⟩ <;> rw [hrel] at hreleased
    · cases hreleased
    · rfl
  · rfl

/-- **A preparation ends as its verdict says.** -/
theorem prepare_verdict {directory : Value} (hform : form.Textual)
    (hoffered : Attachments.Offered (form.get .attachments))
    (hcwd : ∀ f, w.cwd = .error f → (f.kind.isA .osError || f.kind.isA .valueError) = true)
    (h : Ready (unmade directory) w) (forcePreview : Value) :
    Verdict form directory w (prepare form forcePreview directory w) := by
  rcases checkServerConfig_outcome hform w with
    ⟨hname, f, hkind, hcheck⟩ | ⟨p, hname, hexists, f, hkind, hcheck⟩ | ⟨hfound, hcheck⟩
  · have hfound : ¬ Found form w := fun ⟨p, hp, _⟩ => nomatch hname.symm.trans hp
    rw [prepare, bind_error hcheck]
    constructor <;> simp [hname, hkind, hfound]
  · have hfound : ¬ Found form w := by
      rintro ⟨q, hq, hexists'⟩
      cases hname.symm.trans hq
      exact Bool.false_ne_true (hexists.symm.trans hexists')
    rw [prepare, bind_error hcheck]
    constructor <;> simp [hname, hkind, hfound, hexists]
  obtain ⟨p, hname, hexists⟩ := id hfound
  rcases Attachments.normalize?_outcome hcwd hoffered with
    ⟨hlisted, paths, hpaths⟩ | ⟨hlisted, f, hrefused, hkind⟩
  · have hended := prepare_of_passed forcePreview directory hcheck hpaths h.faults
    have hdraft := draft_hindered hform h forcePreview paths
    rcases hobstacle : draftObstacle? form (unmade directory) w with _ | ⟨what, label, f⟩ <;>
      rw [hobstacle] at hdraft
    · obtain ⟨order, hok⟩ := hdraft
      rw [hok] at hended
      constructor <;> simp [hname, hexists, hfound, hlisted, hobstacle, hended, Except.map]
    · have herror : (draft form forcePreview paths (unmade directory) w).1.1 =
        .error (failed what label f) := hdraft
      rw [herror] at hended
      have hkind : (failed what label f).kind = .tempWriteFailed := rfl
      constructor <;> simp [hname, hexists, hfound, hlisted, hobstacle, hended, hkind, Except.map]
  · have hattach : attachments (form.get .attachments) w = (.error f, w) := by
      rw [← hrefused]
      rfl
    rw [prepare, bind_ok hcheck, bind_error hattach]
    constructor <;> simp [hname, hkind, hfound, hexists, hlisted]

end Preparation

/-! ## Calling the engine -/

namespace Dispatch

open Preparation (Verdict prepare prepare_verdict unmade)

/-- The worlds have the same service. -/
def SameService (w v : World) : Prop := v.service = w.service

instance : Std.Refl SameService := ⟨fun _ => rfl⟩

instance : Trans SameService SameService SameService := ⟨fun h h' => Eq.trans h' h⟩

theorem sameService_housekeeping : Housekeeping SameService :=
  .of_files (fun _ _ _ _ => rfl) fun _ _ _ => rfl

variable {operation : Campaign} {form : Form} {directory : Value} {e : EngineRef} {w v : World}

/-- A service with an engine of its own finds it. -/
theorem announce_own (h : w.service.engine = some e) (operation : String) :
    ∃ v, announce operation w = (.ok e, v) := by
  obtain ⟨u, hnote, hu⟩ : ∃ u,
      note .info operation (("Starting " : Text) ++ Text.ofString operation) none w = (.ok (), u) ∧
        u.service = w.service := ⟨_, rfl, rfl⟩
  refine ⟨u, ?_⟩
  rw [announce, bind_ok hnote, engine, Act.bind_apply]
  simp only [Act.get_apply, hu, h, Act.pure_apply]

/-- A form that is not prepared fails an operation as it fails to be prepared, and no engine is
called. -/
theorem perform_of_error {f : Failure} (hservice : w.service = ⟨some e, directory⟩)
    (h : prepare form (.bool (operation = .preview)) directory w = (.error f, v)) :
    entered? operation form w = none ∧ ∀ call, perform call operation form w = (.error f, v) := by
  have hprep : prepare form (.bool (operation = .preview)) w.service.tempDir w = (.error f, v) := by
    rw [hservice, h]
  exact ⟨by rw [entered?, hprep], perform_unprepared hprep⟩

/-- A form that is prepared has an operation call the service's own engine with the order. -/
theorem perform_of_ok {order : Order} {files : TempFiles}
    (hservice : w.service = ⟨some e, directory⟩)
    (h : prepare form (.bool (operation = .preview)) directory w = (.ok (order, files), v)) :
    ∃ x, entered? operation form w = some x ∧ x.engine = e ∧ x.order = order ∧ x.files = files ∧
      ∀ call, perform call operation form w = leave operation x.files (call e x.order x.world) := by
  have hprep : prepare form (.bool (operation = .preview)) w.service.tempDir w =
      (.ok (order, files), v) := by
    rw [hservice, h]
  have hsame : SameService w v := by
    have hmoved := sameService_housekeeping.prepare form (.bool (operation = .preview)) directory w
    rwa [h] at hmoved
  obtain ⟨u, hann⟩ : ∃ u, announce (operationName operation) v = (.ok e, u) :=
    announce_own (by rw [hsame, hservice]) _
  have hentered : entered? operation form w = some ⟨e, order, files, u⟩ := by
    rw [entered?, hprep]
    simp only [hann]
  refine ⟨_, hentered, rfl, rfl, rfl, ?_⟩
  rcases perform_cases operation form w with ⟨x, hx, hperform⟩ | ⟨hnone, -⟩
  · cases hentered.symm.trans hx
    exact hperform
  · cases hentered.symm.trans hnone

/-- **How an operation goes on once its form is prepared or not.** A failure is the end of it, whatever
the engine; an order is what the service's own engine is called with. -/
structure Resumed (operation : Campaign) (form : Form) (e : EngineRef) (w : World)
    (ended : Except Failure (Order × TempFiles) × World) : Prop where
  refused : ∀ f, ended.1 = .error f → entered? operation form w = none ∧
    ∀ call, perform call operation form w = (.error f, ended.2)
  prepared : ∀ order files, ended.1 = .ok (order, files) → ∃ x, entered? operation form w = some x ∧
    x.engine = e ∧ x.order = order ∧ x.files = files ∧
    ∀ call, perform call operation form w = leave operation x.files (call e x.order x.world)

theorem resumed (hservice : w.service = ⟨some e, directory⟩) : Resumed operation form e w
    (prepare form (.bool (operation = .preview)) directory w) where
  refused _ hf := perform_of_error hservice (Prod.ext hf rfl)
  prepared _ _ hr := perform_of_ok hservice (Prod.ext hr rfl)

/-- **A form is refused in a fixed order**: first for the mail server configuration, which may be missing
or not found, then for the attachments, both before any file is made, then for what is in the way of its
files. A service with an engine of its own calls it exactly if the form is not refused. -/
theorem refused_in_order (hform : form.Textual)
    (hoffered : Attachments.Offered (form.get .attachments))
    (hcwd : ∀ f, w.cwd = .error f → (f.kind.isA .osError || f.kind.isA .valueError) = true)
    (hfaults : w.SystemFaults) (hdirectory : Drafting.Admits w directory) :
    (∀ forcePreview, Verdict form directory w (prepare form forcePreview directory w)) ∧
    ∀ operation e, w.service = ⟨some e, directory⟩ →
      Resumed operation form e w (prepare form (.bool (operation = .preview)) directory w) :=
  ⟨prepare_verdict hform hoffered hcwd ⟨hfaults, hdirectory, rfl⟩, fun _ _ hservice => resumed hservice⟩

/-- In the sample world nothing is in the way of the sample form, and the engine is called. -/
theorem refused_in_order_sample :
    Sample.form.Textual ∧ Attachments.Offered (Sample.form.get .attachments) ∧
    (∀ f, Sample.world.cwd = .error f → (f.kind.isA .osError || f.kind.isA .valueError) = true) ∧
    Sample.world.SystemFaults ∧ Drafting.Admits Sample.world .null ∧
    ∃ x, entered? .run Sample.form Sample.world = some x ∧ x.engine = .scripted none := by
  have hform : Sample.form.Textual := by
    intro f hf
    cases f <;> first | exact .inr ⟨_, rfl⟩ | exact nomatch hf
  have hoffered : Attachments.Offered (Sample.form.get .attachments) := .inr ⟨[], rfl⟩
  have hcwd : ∀ f, Sample.world.cwd = .error f →
      (f.kind.isA .osError || f.kind.isA .valueError) = true := by
    intro f hf
    cases hf
  have hfaults : Sample.world.SystemFaults := List.forall_mem_nil _
  have hdirectory : Drafting.Admits Sample.world .null :=
    .inl ⟨rfl, by change Text.Clean "/tmp"; decide⟩
  have hfound : Preparation.Found Sample.form Sample.world :=
    ⟨"mail.json", by decide +kernel, by decide +kernel⟩
  have hclear : Preparation.draftObstacle? Sample.form (unmade .null) Sample.world = none := by
    decide +kernel
  obtain ⟨hverdict, hresumed⟩ := refused_in_order hform hoffered hcwd hfaults hdirectory
  obtain ⟨⟨order, files⟩, hok⟩ :=
    (hverdict (.bool (Campaign.run = .preview))).prepared.2 ⟨hfound, nofun, hclear⟩
  obtain ⟨x, hx, hengine, -⟩ := (hresumed .run (.scripted none) rfl).prepared order files hok
  exact ⟨hform, hoffered, hcwd, hfaults, hdirectory, x, hx, hengine⟩

end Dispatch

end CampaignDesk
