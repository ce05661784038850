import CampaignDesk.Proofs.Order.Refusals

/-!
# What the order of a form holds

* `Order.Field.kept?`: the fields whose value an order takes over from the form as it is.
  `Order.Field.number?`: the fields in which it takes over a number, or its default.
* `Preparation.Completed`: what every field of an order holds, group by group.
* `Preparation.prepare_completed`: **a form that is prepared names its mail server configuration, and
  every field of its order is completed.**
-/

namespace CampaignDesk

open Store World Act Drafting

/-- The field of a form whose value an order takes over as it is. -/
def Order.Field.kept? : Order.Field → Option Form.Field
  | .envPath => some .envPath
  | .sheetUrl => some .sheetUrl
  | .subject => some .subject
  | .text => some .text
  | .to => some .to
  | .cc => some .cc
  | .bcc => some .bcc
  | .filter => some .filter
  | .scheduleAt => some .scheduleAt
  | .interval => some .interval
  | .cron => some .cron
  | .dryRun => some .dryRun
  | _ => none

/-- The field of a form from which an order takes over a number, with the default for it. -/
def Order.Field.number? : Order.Field → Option (Form.Field × Value)
  | .concurrency => some (.concurrency, Defaults.concurrency)
  | .retryLimit => some (.retryLimit, Defaults.retryLimit)
  | .batchSize => some (.batchSize, Defaults.batchSize)
  | .previewPort => some (.previewPort, Defaults.previewPort)
  | .jobRetries => some (.jobRetries, Defaults.jobRetries)
  | _ => none

namespace Preparation

variable {form : Form} {forcePreview template recipients : Value} {attachments : List Text}
  {order : Order} {w v : World} {t t' : TempFiles}

/-- What the fields of an order hold, once its template and recipients have values. -/
structure Completed (form : Form) (forcePreview template recipients : Value)
    (attachments : List Text) (order : Order) : Prop where
  kept : ∀ {field source}, field.kept? = some source → order.get field = form.get source
  number : ∀ {field source default}, field.number? = some (source, default) →
    order.get field = Defaults.ifUnset (form.get source) default
  csvPath : order.get .csvPath = orEmpty recipients
  templatePath : order.get .templatePath = orEmpty template
  attachments : order.get .attachments = .tuple (attachments.map .text)
  jobBackoff : Defaults.ifBlank? (form.get .jobBackoff) Defaults.jobBackoff =
    .ok (order.get .jobBackoff)
  schedulerDb : Defaults.ifBlank? (form.get .schedulerDb) Defaults.schedulerDb =
    .ok (order.get .schedulerDb)
  showPreview : order.get .showPreview =
    .bool (forcePreview.isTruthy || (form.get .showPreview).isTruthy)
  listJobs : order.get .listJobs = .bool false
  cancelJobId : order.get .cancelJobId = .text []
  schedulerRun : order.get .schedulerRun = .bool false

theorem completed_of_order? (h : order? form forcePreview template recipients attachments = .ok order) :
    Completed form forcePreview template recipients attachments order := by
  simp only [order?, bind, Except.bind, pure, Except.pure] at h
  split at h
  · cases h
  next backoff hbackoff =>
  split at h
  · cases h
  next db hdb =>
  cases h
  refine ⟨?_, ?_, rfl, rfl, rfl, hbackoff, hdb, rfl, rfl, rfl, rfl⟩
  · intro field source hfield
    cases field <;> cases hfield <;> rfl
  · intro field source default hfield
    cases field <;> cases hfield <;> rfl

/-- A default for a text takes the place of what is absent or blank, so that no blank text is left. -/
theorem ifBlank?_eq_ok {value default result : Value} (hdefault : inline? default ≠ none)
    (h : Defaults.ifBlank? value default = .ok result) : inline? result ≠ none := by
  rcases hblank : Defaults.isBlank? value with f | _ | _ <;>
    simp only [Defaults.ifBlank?, hblank, bind, Except.bind, pure, Except.pure] at h <;> cases h
  · obtain ⟨content, -, hinline⟩ := inline?_of_not_isBlank hblank
    simp [hinline]
  · exact hdefault

/-- The template that an order is made with is what the form names, or the path of a file. -/
theorem template_value {value : Value} (hstem : t.stem = TempFiles.defaultStem)
    (h : Preparation.template form t w = ((.ok value, t'), v)) :
    (inline? (form.get .templateHtml) = none ∧ value = form.get .templatePath) ∨
      (inline? (form.get .templateHtml) ≠ none ∧ ∃ path, value = .text path) := by
  have hsupplied := template_ok hstem h
  rcases hinline : inline? (form.get .templateHtml) with _ | content <;>
    rw [hinline] at hsupplied
  · exact .inl ⟨rfl, hsupplied.1⟩
  · obtain ⟨path, _, _, hvalue, -⟩ := hsupplied
    exact .inr ⟨nofun, path, hvalue⟩

/-- The recipients that an order is made with are a text or absent: the path of a form is looked at
in any case. -/
theorem recipients_value {value : Value} (hstem : t.stem = TempFiles.defaultStem)
    (h : Preparation.recipients form t w = ((.ok value, t'), v)) : value.IsText := by
  have hsupplied := recipients_ok hstem h
  simp only [Preparation.recipients, Drafting.bind_apply, lift_apply, settle_apply] at h
  have hpath : (form.get .csvPath).IsText := by
    rcases hblank : Defaults.isBlank? (form.get .csvPath) with f | b
    · rw [hblank] at h
      cases h
    · cases hvalue : form.get .csvPath <;> rw [hvalue] at hblank <;>
        first | exact .inl rfl | exact .inr ⟨_, rfl⟩ | cases hblank
  rcases hinline : inlineRecipients? form with _ | content <;> rw [hinline] at hsupplied
  · exact hsupplied.1 ▸ hpath
  · obtain ⟨path, _, _, hvalue, -⟩ := hsupplied
    exact .inr ⟨path, hvalue⟩

/-- A form that is prepared names its mail server configuration. -/
theorem prepare_named {directory : Value} {result : Order × TempFiles}
    (h : prepare form forcePreview directory w = (.ok result, v)) :
    inline? (form.get .envPath) ≠ none := by
  rcases hcheck : checkServerConfig (form.get .envPath) w with ⟨f | _, u⟩
  · rw [prepare, bind_error hcheck] at h
    cases h
  simp only [checkServerConfig, Act.bind_apply, settle_apply] at hcheck
  rcases hblank : Defaults.isBlank? (form.get .envPath) with f | _ | _ <;> rw [hblank] at hcheck
  · cases hcheck
  · obtain ⟨content, -, hinline⟩ := inline?_of_not_isBlank hblank
    simp [hinline]
  · cases hcheck

/-- **A form that is prepared names its mail server configuration, and every field of its order is
completed.** The template is what the form names unless it comes inline, and the recipients are a text
or absent. -/
theorem prepare_completed {directory : Value} {files : TempFiles}
    (h : prepare form forcePreview directory w = (.ok (order, files), v)) :
    inline? (form.get .envPath) ≠ none ∧ ∃ template recipients attachments,
      Completed form forcePreview template recipients attachments order ∧
      ((inline? (form.get .templateHtml) = none ∧ template = form.get .templatePath) ∨
        (inline? (form.get .templateHtml) ≠ none ∧ ∃ path, template = .text path)) ∧
      recipients.IsText := by
  obtain ⟨paths, u, hdraft, -⟩ := prepare_ok h
  obtain ⟨template, recipients, t₁, z, htemplate, hrecipients, horder⟩ := draft_steps hdraft
  have hstem : t₁.stem = TempFiles.defaultStem := (template_ok rfl htemplate).stem.trans rfl
  exact ⟨prepare_named h, template, recipients, paths, completed_of_order? horder,
    template_value rfl htemplate, recipients_value hstem hrecipients⟩

end Preparation

namespace Dispatch

variable {operation : Campaign} {form : Form} {w : World}

/-- When the engine is called, the form has been prepared. -/
theorem Entered.prepared {x : Entered} (h : entered? operation form w = some x) :
    ∃ v, Preparation.prepare form (.bool (operation = .preview)) w.service.tempDir w =
      (.ok (x.order, x.files), v) := by
  unfold entered? at h
  rcases hprep : Preparation.prepare form (.bool (operation = .preview)) w.service.tempDir w with
    ⟨f | ⟨order, files⟩, v⟩ <;> rw [hprep] at h
  · cases h
  simp only at h
  rcases hann : announce (operationName operation) v with ⟨f | e, u⟩ <;> rw [hann] at h <;> cases h
  exact ⟨v, rfl⟩

end Dispatch

end CampaignDesk
