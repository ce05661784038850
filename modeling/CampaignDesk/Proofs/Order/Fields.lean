import CampaignDesk.Proofs.Campaign.Delivery
import CampaignDesk.Proofs.Order.Types

/-!
# Every field of an order

What each field of an order holds, for a form whose fields hold values of the types that they are
declared with.

* `Form.Declared`: a form with such fields.
* `Preparation.write_named`: how the path of a temporary file is made up. `Preparation.Fresh`: the path of
  an order leads to a file that was made for it.
* `Preparation.Filled`: what every field of an order holds. `Filled.determined`: apart from the paths of
  the files made for it, nothing about an order is left open.
* `Preparation.prepare_filled`: **a form that comes to an order fills it as declared.**
-/

namespace CampaignDesk

open Store World Act

/-- A number, or nothing. -/
def Value.IsNumber (v : Value) : Prop := v = .null ∨ v.HasType .number

/-- Every field of a form holds a value of the type that it is declared with: a text or nothing, a
number or nothing, or a list of texts and nothing. -/
structure Form.Declared (form : Form) : Prop where
  texts : form.Textual
  numbers : ∀ {field : Order.Field} {source : Form.Field} {default : Value},
    field.number? = some (source, default) → (form.get source).IsNumber
  attachments : Attachments.Listed (form.get .attachments)

/-- The field of a form from which an order takes over a text, with the default for it. -/
def Order.Field.text? : Order.Field → Option (Form.Field × Value)
  | .jobBackoff => some (.jobBackoff, Defaults.jobBackoff)
  | .schedulerDb => some (.schedulerDb, Defaults.schedulerDb)
  | _ => none

namespace Preparation

variable {form : Form} {forcePreview directory : Value} {order order' : Order} {w v : World}
  {t t' files : TempFiles} {content suffix label path : Text}

/-! ## Values -/

/-- A value, with the empty text for nothing. -/
def orNoText : Value → Value
  | .null => .text []
  | v => v

theorem orEmpty_of_isText {v : Value} (h : v.IsText) : orEmpty v = orNoText v := by
  rcases h with rfl | ⟨t, rfl⟩
  · rfl
  · cases t <;> rfl

/-- A number that is absent or zero leaves the default, any other number stands for itself. -/
theorem ifUnset_of_isNumber {v default : Value} (h : v.IsNumber) :
    ((v = .null ∨ v = .int 0 ∨ v = .bool false) → Defaults.ifUnset v default = default) ∧
    (¬ (v = .null ∨ v = .int 0 ∨ v = .bool false) → Defaults.ifUnset v default = v) := by
  have hunset : (v.isNull || v.isZero) = true ↔ v = .null ∨ v = .int 0 ∨ v = .bool false := by
    rcases h with rfl | htype
    · simp [Value.isNull]
    · cases htype with
      | int n => simp [Value.isNull, Value.isZero]
      | digit b => cases b <;> simp [Value.isNull, Value.isZero]
  unfold Defaults.ifUnset
  constructor
  · intro hv
    rw [if_pos (hunset.2 hv)]
  · intro hv
    rw [if_neg fun h => hv (hunset.1 h)]

/-- A text that is absent or blank leaves the default, any other text stands for itself. -/
theorem ifBlank?_of_isText {v default result : Value} (h : v.IsText)
    (hresult : Defaults.ifBlank? v default = .ok result) :
    result = if (inline? v).isSome then v else default := by
  rw [Defaults.ifBlank?, Defaults.isBlank?_of_isText h] at hresult
  cases hinline : inline? v <;> rw [hinline] at hresult <;> cases hresult <;> rfl

/-! ## Files made for an order -/

/-- The path of a file that is written is made up of the directory, the stem, a number and the suffix. -/
theorem write_named (h : Drafting.write content suffix label t w = ((.ok path, t'), v)) :
    ∃ number, TempCall.path? w.systemTemp t.directory t.stem suffix number = .ok path := by
  simp only [Drafting.write, Drafting.bind_apply, Drafting.get_apply, Drafting.lift_apply,
    attempt_apply] at h
  rcases TempCall.createFile_cases t.directory t.stem suffix w with
    ⟨f, u, hcreate, -⟩ | ⟨p, l, u, number, hcreate, hpath, -⟩ <;> rw [hcreate] at h
  · cases h
  simp only [Drafting.bind_apply, Drafting.pure_apply, Drafting.add_apply, Drafting.lift_apply,
    attempt_apply] at h
  rcases hfill : TempCall.fillFile l content u with ⟨f | _, z⟩ <;> rw [hfill] at h <;> cases h
  exact ⟨number, hpath⟩

theorem isBlank?_of_inline? {v : Value} (h : inline? v = some content) :
    Defaults.isBlank? v = .ok false := by
  have hblank := Defaults.isBlank?_of_isText (.inr ⟨content, inline?_eq_some h⟩ : v.IsText)
  rwa [h] at hblank

/-- Inline content of a template is written to a file. -/
theorem template_inline (h : inline? (form.get .templateHtml) = some content) :
    template form t w = fresh content ".html" "template" t w := by
  rw [template, Drafting.bind_apply]
  simp only [Drafting.lift_apply, settle_apply, isBlank?_of_inline? h, Bool.false_eq_true, if_false]
  rw [inline?_eq_some h]
  rfl

/-- Recipients that come inline are written to a file, unless a path is given. -/
theorem recipients_inline (hpath : (form.get .csvPath).IsText)
    (h : inlineRecipients? form = some content) :
    recipients form t w = fresh content ".csv" "CSV" t w := by
  have hblank := Defaults.isBlank?_of_isText hpath
  unfold inlineRecipients? at h
  rcases hinline : inline? (form.get .csvPath) with _ | p <;> rw [hinline] at hblank <;>
    simp only [hinline] at h
  · rw [recipients, Drafting.bind_apply]
    simp only [Drafting.lift_apply, settle_apply, hblank, Option.isNone_none, Bool.not_true,
      Bool.false_eq_true, if_false]
    rw [Drafting.bind_apply]
    simp only [Drafting.lift_apply, settle_apply, isBlank?_of_inline? h, Bool.false_eq_true, if_false]
    rw [inline?_eq_some h]
    rfl
  · cases h

/-- A fresh file is named like the files of the set. -/
theorem fresh_named {value : Value} (h : fresh content suffix label t w = ((.ok value, t'), v)) :
    ∃ path number, value = .text path ∧
      TempCall.path? w.systemTemp t.directory t.stem suffix number = .ok path := by
  rw [fresh, Drafting.bind_apply] at h
  rcases hwrite : Drafting.write content suffix label t w with ⟨⟨f | path, t''⟩, u⟩ <;>
    rw [hwrite] at h <;> cases h
  obtain ⟨number, hpath⟩ := write_named hwrite
  exact ⟨path, number, rfl, hpath⟩

/-- The path leads to a file that was made for an order: it is one of the files to be released, in the
directory for temporary files and with a name of their kind, nothing stood there in `w`, and in `v` it
holds the content. -/
structure Fresh (directory : Value) (w v : World) (files : TempFiles) (content suffix path : Text) :
    Prop where
  registered : path ∈ files.paths
  named : ∃ number,
    TempCall.path? w.systemTemp directory TempFiles.defaultStem suffix number = .ok path
  delivered : ∃ l, Delivered directory w v content path l

/-- A field of an order is filled with the path of a file made for it, if there is content for one, and
else with what the form holds. -/
def FromFile (directory : Value) (w v : World) (files : TempFiles) (content : Option Text)
    (suffix : Text) (kept value : Value) : Prop :=
  match content with
  | some content => ∃ path, value = .text path ∧ Fresh directory w v files content suffix path
  | none => value = orNoText kept

/-- A field that is provided, and that is named as its files are, is filled. -/
theorem fromFile_of_provided {content : Option Text} {kept value : Value} {paths : List Text}
    (hkept : kept.IsText) (h : Provided directory w v content kept value paths)
    (hpaths : ∀ path ∈ paths, path ∈ files.paths)
    (hnamed : ∀ c, content = some c → ∃ path number, value = .text path ∧
      TempCall.path? w.systemTemp directory TempFiles.defaultStem suffix number = .ok path) :
    FromFile directory w v files content suffix kept value := by
  cases content with
  | none => exact h.2.trans (orEmpty_of_isText hkept)
  | some content =>
    obtain ⟨path, l, rfl, rfl, hdelivered⟩ := h
    obtain ⟨_, number, hvalue, hnumber⟩ := hnamed content rfl
    cases hvalue
    exact ⟨path, rfl, hpaths path List.mem_cons_self, ⟨number, hnumber⟩, l, hdelivered⟩

/-! ## Orders -/

/-- **What every field of an order holds.** -/
structure Filled (form : Form) (forcePreview directory : Value) (w : World) (order : Order)
    (files : TempFiles) (v : World) : Prop where
  kept : ∀ {field source}, field.kept? = some source → order.get field = form.get source
  template : FromFile directory w v files (inline? (form.get .templateHtml)) ".html"
    (form.get .templatePath) (order.get .templatePath)
  recipients : FromFile directory w v files (inlineRecipients? form) ".csv" (form.get .csvPath)
    (order.get .csvPath)
  attachments : ∃ paths, Attachments.normalize? w.cwd (form.get .attachments) = .ok paths ∧
    order.get .attachments = .tuple (paths.map .text)
  unset : ∀ {field source default}, field.number? = some (source, default) →
    (form.get source = .null ∨ form.get source = .int 0 ∨ form.get source = .bool false) →
      order.get field = default
  number : ∀ {field source default}, field.number? = some (source, default) →
    ¬ (form.get source = .null ∨ form.get source = .int 0 ∨ form.get source = .bool false) →
      order.get field = form.get source
  text : ∀ {field source default}, field.text? = some (source, default) →
    order.get field = if (inline? (form.get source)).isSome then form.get source else default
  showPreview : order.get .showPreview =
    .bool (forcePreview.isTruthy || (form.get .showPreview).isTruthy)
  listJobs : order.get .listJobs = .bool false
  cancelJobId : order.get .cancelJobId = .text []
  schedulerRun : order.get .schedulerRun = .bool false

/-- **Nothing about an order is left open** but the paths of the files that are made for it. -/
theorem Filled.determined {files' : TempFiles} {v' : World}
    (h : Filled form forcePreview directory w order files v)
    (h' : Filled form forcePreview directory w order' files' v')
    (htemplate : order.get .templatePath = order'.get .templatePath)
    (hrecipients : order.get .csvPath = order'.get .csvPath) : order = order' := by
  have hkept {field source} (hfield : Order.Field.kept? field = some source) :
      order.get field = order'.get field := (h.kept hfield).trans (h'.kept hfield).symm
  have hnumber {field source default} (hfield : Order.Field.number? field = some (source, default)) :
      order.get field = order'.get field := by
    by_cases hunset : form.get source = .null ∨ form.get source = .int 0 ∨ form.get source = .bool false
    · exact (h.unset hfield hunset).trans (h'.unset hfield hunset).symm
    · exact (h.number hfield hunset).trans (h'.number hfield hunset).symm
  have htext {field source default} (hfield : Order.Field.text? field = some (source, default)) :
      order.get field = order'.get field := (h.text hfield).trans (h'.text hfield).symm
  have hattachments : order.get .attachments = order'.get .attachments := by
    obtain ⟨paths, hpaths, hget⟩ := h.attachments
    obtain ⟨paths', hpaths', hget'⟩ := h'.attachments
    cases hpaths.symm.trans hpaths'
    exact hget.trans hget'.symm
  have hget : order.get = order'.get := by
    funext field
    cases field with
    | templatePath => exact htemplate
    | csvPath => exact hrecipients
    | attachments => exact hattachments
    | concurrency | retryLimit | batchSize | previewPort | jobRetries => exact hnumber rfl
    | jobBackoff | schedulerDb => exact htext rfl
    | showPreview => exact h.showPreview.trans h'.showPreview.symm
    | listJobs => exact h.listJobs.trans h'.listJobs.symm
    | cancelJobId => exact h.cancelJobId.trans h'.cancelJobId.symm
    | schedulerRun => exact h.schedulerRun.trans h'.schedulerRun.symm
    | _ => exact hkept rfl
  cases order
  cases order'
  cases hget
  rfl

/-- **A form that comes to an order fills it as declared.** For a form with values of the declared types,
whatever the world, the directory for temporary files and whether a preview is forced: the template is
the path of a fresh file if it comes inline, the recipients are so if they come inline and no path is
given, and else both are what the form holds; numbers that are absent or zero and texts that are absent or
blank have their defaults; the attachments are collected; the rest is what the form holds. -/
theorem prepare_filled (hform : form.Declared)
    (h : prepare form forcePreview directory w = (.ok (order, files), v)) :
    Filled form forcePreview directory w order files v := by
  obtain ⟨paths, u, hattachments, hdraft, hsame⟩ := prepare_stages h
  obtain ⟨value, value', t₁, z, htemplate, hrecipients, horder⟩ := draft_steps hdraft
  have hc := completed_of_order? horder
  -- what the two fields are supplied with
  have hsupplied := template_ok rfl htemplate
  have hstem : t₁.stem = TempFiles.defaultStem := hsupplied.stem.trans rfl
  have hsupplied' := recipients_ok hstem hrecipients
  obtain ⟨_, _, -, hdirectory, hhome, -⟩ := provided_of_supplied hsupplied
  obtain ⟨ps, qs, hpaths, -, hprov, hprov'⟩ := provided_of_supplied_both hsupplied hsupplied'
  have hall : files.paths = ps ++ qs := hpaths
  have hprovided := hprov.later hsame nofun
  have hprovided' := hprov'.later hsame nofun
  refine ⟨hc.kept, ?_, ?_, ⟨paths, hattachments, hc.attachments⟩, ?_, ?_, ?_, hc.showPreview,
    hc.listJobs, hc.cancelJobId, hc.schedulerRun⟩
  · rw [hc.templatePath]
    refine fromFile_of_provided (hform.texts .templatePath rfl) hprovided
      (fun p hp => hall ▸ List.mem_append_left qs hp) fun content hcontent => ?_
    rw [template_inline hcontent] at htemplate
    obtain ⟨path, number, rfl, hpath⟩ := fresh_named htemplate
    exact ⟨path, number, orEmpty_of_isText (.inr ⟨path, rfl⟩), hpath⟩
  · rw [hc.csvPath]
    refine fromFile_of_provided (hform.texts .csvPath rfl) hprovided'
      (fun p hp => hall ▸ List.mem_append_right ps hp) fun content hcontent => ?_
    rw [recipients_inline (hform.texts .csvPath rfl) hcontent] at hrecipients
    obtain ⟨path, number, rfl, hpath⟩ := fresh_named hrecipients
    rw [hhome, hdirectory, hstem] at hpath
    exact ⟨path, number, orEmpty_of_isText (.inr ⟨path, rfl⟩), hpath⟩
  · intro field source default hfield hunset
    rw [hc.number hfield]
    exact (ifUnset_of_isNumber (hform.numbers hfield)).1 hunset
  · intro field source default hfield hset
    rw [hc.number hfield]
    exact (ifUnset_of_isNumber (hform.numbers hfield)).2 hset
  · intro field source default hfield
    cases field <;> cases hfield
    · exact ifBlank?_of_isText (hform.texts .jobBackoff rfl) hc.jobBackoff
    · exact ifBlank?_of_isText (hform.texts .schedulerDb rfl) hc.schedulerDb

/-- In the sample world a form with inline content, a number below zero, a number that is zero and an
attachment comes to an order with two files, the number below zero, and the defaults. -/
theorem prepare_filled_sample :
    let form := ((Sample.form.set .retryLimit (.int (-3))).set .previewPort (.int 0)).set
      .attachments (.list [.ofString "a.pdf", .null])
    form.Declared ∧ ∃ order files v,
      prepare form (.bool true) .null Sample.world = (.ok (order, files), v) ∧
      files.paths.length = 2 ∧ order.get .retryLimit = .int (-3) ∧
      order.get .previewPort = .int 8080 ∧ order.get .attachments = .tuple [.ofString "/tmp/a.pdf"] ∧
      order.get .jobBackoff = .ofString "2s" ∧ order.get .showPreview = .bool true := by
  intro form
  have hform : form.Declared := by
    refine ⟨?_, ?_, ?_⟩
    · intro f hf
      cases f <;> first | exact .inr ⟨_, rfl⟩ | exact nomatch hf
    · intro field source default hfield
      cases field <;> cases hfield <;> first | exact .inl rfl | exact .inr (.int _)
    · intro x hx
      simp only [List.mem_cons, List.not_mem_nil, or_false] at hx
      rcases hx with rfl | rfl
      · exact .inr ⟨_, rfl⟩
      · exact .inl rfl
  refine ⟨hform, ?_⟩
  have hprepared : ((prepare form (.bool true) .null Sample.world).1.toOption.map
      fun result => result.2.paths.length) = some 2 := by decide +kernel
  rcases hrun : prepare form (.bool true) .null Sample.world with ⟨f | ⟨order, files⟩, v⟩ <;>
    rw [hrun] at hprepared
  · cases hprepared
  have hfilled := prepare_filled hform hrun
  have hretry : Order.Field.number? .retryLimit = some (.retryLimit, Defaults.retryLimit) := rfl
  have hport : Order.Field.number? .previewPort = some (.previewPort, Defaults.previewPort) := rfl
  have hbackoff : Order.Field.text? .jobBackoff = some (.jobBackoff, Defaults.jobBackoff) := rfl
  refine ⟨order, files, v, rfl, Option.some.inj hprepared, ?_, ?_, ?_, hfilled.text hbackoff,
    hfilled.showPreview⟩
  · exact hfilled.number hretry (by simp [form, Form.set])
  · exact hfilled.unset hport (.inr (.inl rfl))
  · obtain ⟨paths, hpaths, hattachments⟩ := hfilled.attachments
    cases hpaths
    exact hattachments

end Preparation

end CampaignDesk
