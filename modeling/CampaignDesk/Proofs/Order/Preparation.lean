import CampaignDesk.Order.Preparation
import CampaignDesk.Proofs.Ordinary
import CampaignDesk.Proofs.TempFiles

/-!
# What preparing an order leaves behind

* `Drafting.Closed`: properties of operations on temporary files that every draft has.
* `prepare_cases`: **an order comes with a draft of the files it refers to, and a failure leaves
  nothing behind**, at whichever stage it comes.
* `Supplied`: what a field with inline content comes to, the value of another field or the path of a
  fresh file with the bytes of the content. `draft_ok`: **the template and the recipients of an order
  are supplied one after the other.**
* `prepare_stages`: what a form that comes to an order has come through.
* `Housekeeping`: relations that temporary files and the log keep, and so does preparing.
-/

/-! ## Properties of drafts -/

namespace CampaignDesk

/-- A property that writing a file has, and that the ways to put a draft together keep. -/
structure Drafting.Closed (Q : {α : Type} → Drafting α → Prop) : Prop where
  pure : ∀ {α : Type} (a : α), Q (Pure.pure a : Drafting α)
  bind : ∀ {α β : Type} {d : Drafting α} {next : α → Drafting β}, Q d → (∀ a, Q (next a)) →
    Q (d >>= next)
  settle : ∀ {α : Type} {outcome : Except Failure α}, Ordinary outcome →
    Q (Drafting.lift (Act.settle outcome))
  write : ∀ (content label : Text) {suffix : Text}, Path.slash ∉ suffix →
    Q (Drafting.write content suffix label)

namespace Drafting.Closed

variable {Q : {α : Type} → Drafting α → Prop} (hQ : Closed Q)

include hQ

theorem template (form : Form) : Q (Preparation.template form) := by
  refine hQ.bind (hQ.settle (Defaults.isBlank?_ordinary _)) fun blank => ?_
  split
  · exact hQ.pure _
  split
  · exact hQ.bind (hQ.write _ _ (by decide)) fun _ => hQ.pure _
  · exact hQ.pure _

theorem recipients (form : Form) : Q (Preparation.recipients form) := by
  refine hQ.bind (hQ.settle (Defaults.isBlank?_ordinary _)) fun blank => ?_
  split
  · exact hQ.pure _
  refine hQ.bind (hQ.settle (Defaults.isBlank?_ordinary _)) fun blank => ?_
  split
  · exact hQ.pure _
  split
  · exact hQ.bind (hQ.write _ _ (by decide)) fun _ => hQ.pure _
  · exact hQ.pure _

/-- **Every draft has such a property.** -/
theorem draft (form : Form) (forcePreview : Value) (attachments : List Text) :
    Q (Preparation.draft form forcePreview attachments) :=
  hQ.bind (hQ.template form) fun _ => hQ.bind (hQ.recipients form) fun _ =>
    hQ.settle (Preparation.order?_ordinary _ _ _ _ _)

end Drafting.Closed

end CampaignDesk

namespace CampaignDesk.Preparation

open Store World Act Drafting

variable {w v : World} {t t' : TempFiles} {form : Form}

/-! ## The stages keep drafts -/

theorem checkServerConfig_apply (path : Value) (w : World) :
    (checkServerConfig path w).2 = w := by
  simp only [checkServerConfig, Act.bind_apply, settle_apply]
  rcases Defaults.isBlank? path with f | _ | _
  · rfl
  · cases path with
    | text p => cases h : w.store.exists p <;> simp [Act.bind_apply, h]
    | _ => rfl
  · rfl

theorem attachments_apply (v : Value) (w : World) : (attachments v w).2 = w := rfl

theorem drafts_closed : Closed Drafts where
  pure := Drafts.pure
  bind := Drafts.bind
  settle _ := Drafts.lift (Within.settle _)
  write content label _ hsuffix := Drafts.write content label hsuffix

/-- The first two stages leave the world as it is, and what comes after them depends on how the
draft ended. -/
theorem prepare_apply (form : Form) (forcePreview directory : Value) (w : World) :
    (∃ f, prepare form forcePreview directory w = (.error f, w)) ∨
    ∃ paths, prepare form forcePreview directory w =
      match draft form forcePreview paths (TempFiles.none directory TempFiles.defaultStem) w with
      | ((.error f, files), v) => (files.release >>= fun _ => throw f) v
      | ((.ok order, files), v) =>
        (.ok (order, files), (Act.log .debug logger
          (("Normalized request (" : Text) ++ Text.ofNat files.paths.length ++
            (" temp artifacts)" : Text)) v).2) := by
  unfold prepare
  -- the two stages that may fail before there is a draft
  have hcheck := checkServerConfig_apply (form.get .envPath) w
  rcases hc : checkServerConfig (form.get .envPath) w with ⟨f | _, v⟩ <;> rw [hc] at hcheck <;>
    subst hcheck
  · exact .inl ⟨f, bind_error hc⟩
  rw [bind_ok hc]
  have hatt := attachments_apply (form.get .attachments) v
  rcases ha : attachments (form.get .attachments) v with ⟨f | paths, u⟩ <;> rw [ha] at hatt <;>
    subst hatt
  · exact .inl ⟨f, bind_error ha⟩
  rw [bind_ok ha]
  refine .inr ⟨paths, ?_⟩
  simp only [TempFiles.run, Act.bind_apply]
  rcases draft form forcePreview paths (TempFiles.none directory TempFiles.defaultStem) u with
    ⟨⟨f | order, files⟩, z⟩
  · simp only [Act.bind_apply]
  · rfl

/-- **An order comes with a draft of the files it refers to, and a failure leaves nothing behind.** -/
theorem prepare_cases (form : Form) (forcePreview directory : Value) (w : World) :
    (∃ f v, prepare form forcePreview directory w = (.error f, v) ∧ w.Restored v) ∨
    ∃ order files v, prepare form forcePreview directory w = (.ok (order, files), v) ∧
      Drafted w files v := by
  rcases prepare_apply form forcePreview directory w with ⟨f, h⟩ | ⟨paths, h⟩ <;> rw [h]
  · exact .inl ⟨f, w, rfl, .of_sameFiles (Std.Refl.refl w)⟩
  have hdraft := drafts_closed.draft form forcePreview paths (Drafted.none w directory)
  rcases hd : draft form forcePreview paths (TempFiles.none directory TempFiles.defaultStem) w with
    ⟨⟨f | order, files⟩, z⟩ <;> rw [hd] at hdraft
  · -- a draft that fails is released on the spot
    obtain ⟨released, r, hrel, hsame, hgone⟩ := hdraft.release_cases z hdraft.same.tree
    have hres : w.Restored r :=
      ⟨_, hdraft.same.trans hsame, hdraft.vacant,
        fun hw => (hgone (hdraft.same.spares hw)).2⟩
    rcases released with e | _
    · exact .inl ⟨e, r, bind_error hrel, hres⟩
    · exact .inl ⟨f, r, bind_ok hrel, hres⟩
  · exact .inr ⟨order, files, _, rfl, hdraft.trans (log_sameBut _ _ _ z)⟩

/-! ## Inline content -/

/-- The text in a field, unless it is blank. -/
def inline? : Value → Option Text
  | .text t => if t.isBlank then none else some t
  | _ => none

theorem inline?_of_isBlank {value : Value} (h : Defaults.isBlank? value = .ok true) :
    inline? value = none := by
  cases value with
  | text t =>
    rw [inline?, if_pos (Except.ok.inj h)]
  | _ => rfl

theorem inline?_of_not_isBlank {value : Value} (h : Defaults.isBlank? value = .ok false) :
    ∃ content, value = .text content ∧ inline? value = some content := by
  cases value with
  | text t => exact ⟨t, rfl, by rw [inline?, if_neg (Bool.eq_false_iff.1 (Except.ok.inj h))]⟩
  | _ => cases h

/-- The recipients of a form that are to be written to a file: a path wins over them. -/
def inlineRecipients? (form : Form) : Option Text :=
  match inline? (form.get .csvPath) with
  | some _ => none
  | none => inline? (form.get .csvContent)

/-- What a field comes to: another field's value if there is no inline content, else the path of a
fresh file with the bytes of the content. -/
def Supplied (content : Option Text) (kept : Value) (t : TempFiles) (w : World) (value : Value)
    (t' : TempFiles) (v : World) : Prop :=
  match content with
  | none => value = kept ∧ t' = t ∧ v = w
  | some content => ∃ path l bytes, value = .text path ∧
      t' = { t with paths := t.paths ++ [path] } ∧ Made t w path l v ∧
      Utf8.encode? content = .ok bytes ∧ v.store.node? l = some (.file bytes)

theorem Supplied.stem {content : Option Text} {kept value : Value}
    (h : Supplied content kept t w value t' v) : t'.stem = t.stem := by
  cases content with
  | none => rw [h.2.1]
  | some content =>
    obtain ⟨_, _, _, _, rfl, -⟩ := h
    rfl

/-- A field whose content is written. -/
theorem supplied_of_write {content suffix label path : Text} {kept : Value}
    (hstem : t.stem = TempFiles.defaultStem) (hsuffix : Path.slash ∉ suffix)
    (h : write content suffix label t w = ((.ok path, t'), v)) :
    Supplied (some content) kept t w (.text path) t' v := by
  have hplain : Plain t.stem suffix := .of_default hstem hsuffix
  rcases write_cases content label hplain w with
    ⟨f, u, hrun, -⟩ | ⟨outcome, p, l, u, hrun, hmade, hok⟩ <;> rw [hrun] at h <;> cases h
  obtain ⟨rfl, bytes, hbytes, hfile⟩ := hok path rfl
  exact ⟨_, l, bytes, rfl, rfl, hmade, hbytes, hfile⟩

theorem template_ok {value : Value} (hstem : t.stem = TempFiles.defaultStem)
    (h : template form t w = ((.ok value, t'), v)) :
    Supplied (inline? (form.get .templateHtml)) (form.get .templatePath) t w value t' v := by
  simp only [template, Drafting.bind_apply, lift_apply, settle_apply] at h
  rcases hblank : Defaults.isBlank? (form.get .templateHtml) with f | _ | _ <;> rw [hblank] at h
  · cases h
  · obtain ⟨content, hcontent, hinline⟩ := inline?_of_not_isBlank hblank
    simp only [Bool.false_eq_true, if_false, hcontent, Drafting.bind_apply] at h
    rw [hinline]
    rcases hwrite : write content ".html" "template" t w with ⟨⟨f | path, t''⟩, u⟩ <;>
      rw [hwrite] at h <;> cases h
    exact supplied_of_write hstem (by decide) hwrite
  · rw [inline?_of_isBlank hblank]
    cases h
    exact ⟨rfl, rfl, rfl⟩

theorem recipients_ok {value : Value} (hstem : t.stem = TempFiles.defaultStem)
    (h : recipients form t w = ((.ok value, t'), v)) :
    Supplied (inlineRecipients? form) (form.get .csvPath) t w value t' v := by
  simp only [recipients, Drafting.bind_apply, lift_apply, settle_apply] at h
  rcases hpath : Defaults.isBlank? (form.get .csvPath) with f | _ | _ <;> rw [hpath] at h
  · cases h
  · -- a path is given, and the content does not matter
    obtain ⟨path, -, hinline⟩ := inline?_of_not_isBlank hpath
    rw [inlineRecipients?, hinline]
    cases h
    exact ⟨rfl, rfl, rfl⟩
  rw [inlineRecipients?, inline?_of_isBlank hpath]
  simp only [Bool.not_true, Bool.false_eq_true, if_false, Drafting.bind_apply, lift_apply,
    settle_apply] at h
  rcases hblank : Defaults.isBlank? (form.get .csvContent) with f | _ | _ <;> rw [hblank] at h
  · cases h
  · obtain ⟨content, hcontent, hinline⟩ := inline?_of_not_isBlank hblank
    simp only [Bool.false_eq_true, if_false, hcontent, Drafting.bind_apply] at h
    rw [hinline]
    rcases hwrite : write content ".csv" "CSV" t w with ⟨⟨f | path, t''⟩, u⟩ <;>
      rw [hwrite] at h <;> cases h
    exact supplied_of_write hstem (by decide) hwrite
  · rw [inline?_of_isBlank hblank]
    cases h
    exact ⟨rfl, rfl, rfl⟩

/-- The paths in an order are the ones it was made with. -/
theorem order?_fields {forcePreview template recipients : Value} {attachments : List Text}
    {order : Order} (h : order? form forcePreview template recipients attachments = .ok order) :
    order.get .templatePath = orEmpty template ∧ order.get .csvPath = orEmpty recipients := by
  simp only [order?, bind, Except.bind, pure, Except.pure] at h
  split at h
  · cases h
  split at h
  · cases h
  · cases h
    exact ⟨rfl, rfl⟩

/-- A draft that comes to an order has come to a template and to recipients before. -/
theorem draft_steps {forcePreview : Value} {attachments : List Text} {order : Order}
    (h : draft form forcePreview attachments t w = ((.ok order, t'), v)) :
    ∃ value value' t₁ u, template form t w = ((.ok value, t₁), u) ∧
      recipients form t₁ u = ((.ok value', t'), v) ∧
      order? form forcePreview value value' attachments = .ok order := by
  simp only [draft, Drafting.bind_apply] at h
  rcases htem : template form t w with ⟨⟨f | value, t₁⟩, u⟩ <;> rw [htem] at h
  · cases h
  simp only at h
  rcases hrec : recipients form t₁ u with ⟨⟨f | value', t₂⟩, z⟩ <;> rw [hrec] at h
  · cases h
  simp only [lift_apply, settle_apply] at h
  rcases hord : order? form forcePreview value value' attachments with f | made <;> rw [hord] at h <;>
    cases h
  exact ⟨value, value', t₁, u, rfl, hrec, hord⟩

/-- **The template and the recipients of an order are supplied one after the other**, and nothing is
done to files apart from that. -/
theorem draft_ok {forcePreview : Value} {attachments : List Text} {order : Order}
    (hstem : t.stem = TempFiles.defaultStem)
    (h : draft form forcePreview attachments t w = ((.ok order, t'), v)) :
    ∃ template recipients t₁ u,
      Supplied (inline? (form.get .templateHtml)) (form.get .templatePath) t w template t₁ u ∧
      Supplied (inlineRecipients? form) (form.get .csvPath) t₁ u recipients t' v ∧
      order.get .templatePath = orEmpty template ∧ order.get .csvPath = orEmpty recipients := by
  obtain ⟨value, value', t₁, u, htem, hrec, hord⟩ := draft_steps h
  have htemplate := template_ok hstem htem
  have hrecipients := recipients_ok (htemplate.stem.trans hstem) hrec
  exact ⟨value, value', t₁, u, htemplate, hrecipients, order?_fields hord⟩

/-- **A form that comes to an order has come through the stages before**: its attachments are collected
from where it stands, and its order is drafted with them on a set of files that is empty at first. -/
theorem prepare_stages {forcePreview directory : Value} {order : Order} {files : TempFiles}
    (h : prepare form forcePreview directory w = (.ok (order, files), v)) :
    ∃ paths u, Attachments.normalize? w.cwd (form.get .attachments) = .ok paths ∧
      draft form forcePreview paths
        (TempFiles.none directory TempFiles.defaultStem) w = ((.ok order, files), u) ∧
      u.SameFiles v := by
  have hcheck := checkServerConfig_apply (form.get .envPath) w
  rcases hc : checkServerConfig (form.get .envPath) w with ⟨f | _, u⟩ <;> rw [hc] at hcheck <;>
    subst hcheck
  · rw [prepare, bind_error hc] at h
    cases h
  have hattach : attachments (form.get .attachments) u =
      (Attachments.normalize? u.cwd (form.get .attachments), u) := rfl
  rcases hpaths : Attachments.normalize? u.cwd (form.get .attachments) with f | paths <;>
    rw [hpaths] at hattach
  · rw [prepare, bind_ok hc, bind_error hattach] at h
    cases h
  rw [prepare, bind_ok hc, bind_ok hattach] at h
  simp only [TempFiles.run, Act.bind_apply] at h
  refine ⟨paths, ?_⟩
  rcases hd : draft form forcePreview paths (TempFiles.none directory TempFiles.defaultStem) u with
    ⟨⟨f | made, t⟩, z⟩ <;> rw [hd] at h
  · -- releasing does not turn a failure into an order
    simp only [Act.bind_apply] at h
    rcases hrel : t.release z with ⟨_ | _, _⟩ <;> rw [hrel] at h <;> cases h
  · cases h
    exact ⟨z, rfl, rfl, log_sameBut _ _ _ z⟩

theorem prepare_ok {forcePreview directory : Value} {order : Order} {files : TempFiles}
    (h : prepare form forcePreview directory w = (.ok (order, files), v)) :
    ∃ paths u, draft form forcePreview paths
        (TempFiles.none directory TempFiles.defaultStem) w = ((.ok order, files), u) ∧
      u.SameFiles v := by
  obtain ⟨paths, u, -, hdraft, hsame⟩ := prepare_stages h
  exact ⟨paths, u, hdraft, hsame⟩

end CampaignDesk.Preparation

/-! ## Along which relations preparing moves -/

namespace CampaignDesk

open Act

/-- Worlds may change along `R` by files made, filled and removed, and by a log record without an
operation. -/
structure Housekeeping (R : World → World → Prop) : Prop where
  create : ∀ directory stem suffix, Within R (TempCall.createFile directory stem suffix)
  fill : ∀ l content, Within R (TempCall.fillFile l content)
  remove : ∀ path, Within R (TempCall.removeFile path)
  remark : ∀ r : Record, r.operation = none → Within R (Act.note r)

/-- A relation that has nothing to do with files, with the calls that make them and with the log. -/
theorem Housekeeping.of_files {R : World → World → Prop}
    (hfiles : ∀ (w : World) store counts logging,
      R w { w with store := store, counts := counts, logging := logging })
    (hremark : ∀ r : Record, r.operation = none → Within R (Act.note r)) : Housekeeping R where
  create directory stem suffix w := by
    obtain ⟨outcome, counts, henter, -⟩ := TempCall.enter_eq .create w
    unfold TempCall.createFile
    rw [Act.bind_apply, henter]
    rcases outcome with f | _
    · exact hfiles w _ _ _
    simp only [Act.bind_apply, get_apply, settle_apply]
    rcases TempCall.path? w.systemTemp directory stem suffix (counts .create) with f | path
    · exact hfiles w _ _ _
    simp only
    rcases w.store.create? path with f | made <;> exact hfiles w _ _ _
  fill l content w := by
    obtain ⟨outcome, counts, henter, -⟩ := TempCall.enter_eq .open w
    unfold TempCall.fillFile
    rw [Act.bind_apply, henter]
    rcases outcome with f | _
    · exact hfiles w _ _ _
    rcases Utf8.encode? content with fault | bytes <;> exact hfiles w _ _ _
  remove path w := by
    obtain ⟨outcome, counts, henter, -⟩ := TempCall.enter_eq .remove w
    unfold TempCall.removeFile
    rw [Act.bind_apply, henter]
    rcases outcome with f | _
    · exact hfiles w _ _ _
    simp only [Act.bind_apply, get_apply, settle_apply]
    rcases w.store.remove? path with f | store <;> exact hfiles w _ _ _
  remark := hremark

/-- The operation moves every world along `R`, whatever the set of files. -/
def Drafting.Along {α : Type} (R : World → World → Prop) (d : Drafting α) : Prop :=
  ∀ t w, R w (d t w).2

variable {α β : Type} {R : World → World → Prop}

namespace Drafting.Along

theorem pure [Std.Refl R] (a : α) : Along R (Pure.pure a : Drafting α) :=
  fun _ w => Std.Refl.refl w

theorem lift {act : Act α} (h : Act.Within R act) : Along R (Drafting.lift act) := fun _ => h

theorem bind [Trans R R R] {d : Drafting α} {next : α → Drafting β} (h : Along R d)
    (h' : ∀ a, Along R (next a)) : Along R (d >>= next) := by
  intro t w
  have hw := h t w
  rw [bind_apply]
  rcases hd : d t w with ⟨⟨f | a, t'⟩, v⟩ <;> rw [hd] at hw
  · exact hw
  · exact Trans.trans hw (h' a t' v)

end Drafting.Along

namespace Housekeeping

variable [Std.Refl R] [Trans R R R] (h : Housekeeping R)

include h

omit [Std.Refl R] in
theorem write (content suffix label : Text) :
    Drafting.Along R (Drafting.write content suffix label) := by
  intro t w
  have hcreate := h.create t.directory t.stem suffix w
  simp only [Drafting.write, Drafting.bind_apply, Drafting.get_apply, Drafting.lift_apply,
    attempt_apply]
  rcases hmade : TempCall.createFile t.directory t.stem suffix w with ⟨f | ⟨path, l⟩, v⟩ <;>
    rw [hmade] at hcreate
  · exact hcreate
  have hfill := h.fill l content v
  simp only [Drafting.bind_apply, Drafting.pure_apply, Drafting.add_apply, Drafting.lift_apply,
    attempt_apply]
  rcases hfilled : TempCall.fillFile l content v with ⟨f | _, u⟩ <;> rw [hfilled] at hfill
  · exact Trans.trans hcreate hfill
  · exact Trans.trans hcreate (Trans.trans hfill (h.remark _ rfl u))

theorem removeAll (paths : List Text) : Within R (Drafting.removeAll paths) := by
  induction paths with
  | nil => exact .pure _
  | cons path rest ih =>
    unfold Drafting.removeAll
    refine (h.remove path).attempt.bind fun removed => ?_
    split
    · exact ih
    · split
      · exact (h.remark _ rfl).bind fun _ => ih
      · exact (Within.throw _).bind fun _ => ih

theorem releasing : Drafting.Along R Drafting.release := by
  intro t w
  simp only [Drafting.release, Drafting.bind_apply, Drafting.get_apply]
  cases t.released with
  | true => exact Std.Refl.refl w
  | false => exact h.removeAll t.paths w

theorem release (t : TempFiles) : Within R t.release :=
  Within.bind (h.releasing t) fun _ => Within.settle _

theorem closed : Drafting.Closed (Drafting.Along R) where
  pure := .pure
  bind := .bind
  settle _ := .lift (.settle _)
  write content label _ _ := h.write content _ label

/-- **Preparing an order moves along every relation that temporary files and the log keep.** -/
theorem prepare (form : Form) (forcePreview directory : Value) :
    Within R (Preparation.prepare form forcePreview directory) := by
  refine (Within.of_eq (Preparation.checkServerConfig_apply _)).bind fun _ => ?_
  refine (Within.of_eq (Preparation.attachments_apply _)).bind fun paths => ?_
  refine Within.bind (h.closed.draft form forcePreview paths _) fun (outcome, files) => ?_
  cases outcome
  · exact (h.release files).bind fun _ => .throw _
  · exact (h.remark _ rfl).bind fun _ => .pure _

end Housekeeping

end CampaignDesk
