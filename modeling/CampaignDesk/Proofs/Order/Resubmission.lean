import CampaignDesk.Proofs.Order.Attachments
import CampaignDesk.Proofs.Order.Fields
import CampaignDesk.Proofs.Order.Unset
import CampaignDesk.Proofs.Store.Growth

/-!
# An order prepared again

An order leaves nothing open that its form left open, and it can be filled in as a form itself. Preparing
that form changes nothing any more.

* `Order.toForm`: the form whose fields hold what the fields of an order with the same names hold.
* `Attachments.Settled`: paths that collecting leaves as they are. `normalize?_settled`: **what is
  collected is settled**, whatever is attached and whether or not the working directory can be told.
* `Preparation.order?_eq_ok`: an order is made of a form exactly if it is completed.
  `Completed.again`: **an order completes its own form.**
* `Preparation.prepare_again`: **preparing the form of an order gives the same order and makes no file.**
-/

namespace CampaignDesk

open Store World Act

/-! ## The form of an order -/

/-- The field of an order with the same name. -/
def Form.Field.namesake? (f : Form.Field) : Option Order.Field :=
  Order.Field.all.find? fun g => g.name = f.name

/-- A tuple as a list. -/
def Value.asList : Value → Value
  | .tuple items => .list items
  | v => v

/-- The form whose fields hold what the fields of the order with the same names hold, the attachments as
a list. Nothing is inline: for inline content an order has no field. -/
def Order.toForm (order : Order) : Form where
  get f :=
    match f.namesake? with
    | some .attachments => (order.get .attachments).asList
    | some g => order.get g
    | none => f.initial

/-! ## Attachments -/

namespace Attachments

variable {cwd : Except Failure Text} {kept more paths : List Text} {entry value : Value}
  {entries : List Value} {path p : Text}

/-- The paths are different from each other, none is blank, and each is seen from the working directory
as it is. -/
structure Settled (cwd : Except Failure Text) (paths : List Text) : Prop where
  nodup : paths.Nodup
  shown : ∀ p ∈ paths, p.isBlank = false
  seen : ∀ p ∈ paths, resolved? cwd p = .ok p

theorem Settled.nil (cwd : Except Failure Text) : Settled cwd [] := ⟨List.nodup_nil, nofun, nofun⟩

/-- **A list of settled paths is collected as it is**, after paths that are settled with it. -/
theorem foldlM_of_settled (h : Settled cwd (kept ++ more)) :
    (more.map .text).foldlM (keep? cwd) kept = .ok (kept ++ more) := by
  induction more generalizing kept with
  | nil => simp [pure, Except.pure]
  | cons p more ih =>
    have hp : p ∈ kept ++ p :: more := List.mem_append_right kept List.mem_cons_self
    have hnew : p ∉ kept := fun hmem =>
      (List.nodup_append.1 h.nodup).2.2 p hmem p List.mem_cons_self rfl
    have hkeep : keep? cwd kept (.text p) = .ok (kept ++ [p]) := by
      simp [keep?, h.shown p hp, h.seen p hp, hnew, bind, Except.bind, pure, Except.pure]
    have happend : kept ++ p :: more = kept ++ [p] ++ more := by simp
    rw [List.map_cons, List.foldlM_cons, hkeep, happend]
    exact ih (happend ▸ h)

theorem normalize?_of_settled (h : Settled cwd paths) :
    normalize? cwd (.list (paths.map .text)) = .ok paths := by
  have hcollect : normalize? cwd (.list (paths.map .text)) =
      (paths.map .text).foldlM (keep? cwd) [] := by
    cases paths <;> rfl
  have hfold : (paths.map .text).foldlM (keep? cwd) [] = .ok ([] ++ paths) := foldlM_of_settled h
  exact hcollect.trans hfold

section

variable (hhome : ∀ d, cwd = .ok d → Path.isAbsolute d = true)

include hhome

/-- A path that has been made absolute is so, or there is no telling where it starts. -/
theorem resolved?_again (hblank : path.isBlank = false) (h : resolved? cwd path = .ok p) :
    p.isBlank = false ∧ resolved? cwd p = .ok p := by
  have hresolved := h
  unfold resolved? at h
  by_cases habsolute : Path.isAbsolute path = true
  · rw [if_pos habsolute] at h
    cases h
    exact ⟨hblank, hresolved⟩
  rw [if_neg habsolute] at h
  cases cwd with
  | ok d =>
    cases h
    have hstart := Path.isAbsolute_resolve (hhome d rfl) path
    exact ⟨not_isBlank_of_isAbsolute hstart, if_pos hstart⟩
  | error f =>
    simp only at h
    split at h <;> cases h
    exact ⟨hblank, hresolved⟩

theorem Settled.keep? (hkept : Settled cwd kept) (h : keep? cwd kept entry = .ok paths) :
    Settled cwd paths := by
  cases entry with
  | null =>
    cases h
    exact hkept
  | text path =>
    simp only [Attachments.keep?] at h
    split at h
    · cases h
      exact hkept
    next hblank =>
    rcases hresolved : resolved? cwd path with f | p <;> rw [hresolved] at h
    · cases h
    obtain ⟨hshown, hseen⟩ := resolved?_again hhome (Bool.eq_false_iff.2 hblank) hresolved
    by_cases hmem : p ∈ kept
    · simp only [bind, Except.bind, if_pos hmem] at h
      cases h
      exact hkept
    · simp only [bind, Except.bind, if_neg hmem] at h
      cases h
      refine ⟨?_, ?_, ?_⟩
      · refine List.nodup_append.2 ⟨hkept.nodup, by simp, fun a ha b hb => ?_⟩
        rintro rfl
        exact hmem (List.mem_singleton.1 hb ▸ ha)
      · exact List.forall_mem_append.2 ⟨hkept.shown, List.forall_mem_singleton.2 hshown⟩
      · exact List.forall_mem_append.2 ⟨hkept.seen, List.forall_mem_singleton.2 hseen⟩
  | bool | int | float | list | tuple | dict => cases h

/-- Collecting one entry after the other keeps paths settled. -/
theorem Settled.foldlM (hkept : Settled cwd kept)
    (h : entries.foldlM (Attachments.keep? cwd) kept = .ok paths) : Settled cwd paths := by
  induction entries generalizing kept with
  | nil =>
    cases h
    exact hkept
  | cons entry entries ih =>
    rw [List.foldlM_cons] at h
    rcases hentry : Attachments.keep? cwd kept entry with f | kept' <;> rw [hentry] at h
    · cases h
    · exact ih (hkept.keep? hhome hentry) h

/-- **What is collected is settled.** -/
theorem normalize?_settled (h : normalize? cwd value = .ok paths) : Settled cwd paths := by
  have hempty := Settled.nil cwd
  cases value with
  | text t => cases h
  | null | bool | int | float | list | tuple | dict =>
    simp only [normalize?] at h
    split at h
    · rcases helements : Form.elements? _ with f | entries <;> rw [helements] at h
      · cases h
      · exact hempty.foldlM hhome h
    · cases h
      exact hempty

end

end Attachments

/-! ## Completing an order again -/

theorem Defaults.ifUnset_ifUnset (v default : Value) :
    ifUnset (ifUnset v default) default = ifUnset v default := by
  unfold ifUnset
  by_cases hv : (v.isNull || v.isZero) = true
  · rw [if_pos hv, ite_self]
  · rw [if_neg hv, if_neg hv]

theorem Defaults.ifBlank?_ifBlank? {v default value : Value}
    (hdefault : ifBlank? default default = .ok default) (h : ifBlank? v default = .ok value) :
    ifBlank? value default = .ok value := by
  have hgiven := h
  rcases hblank : isBlank? v with f | _ | _ <;>
    simp only [ifBlank?, hblank, bind, Except.bind, pure, Except.pure] at h <;> cases h
  · exact hgiven
  · exact hdefault

namespace Preparation

variable {form : Form} {forcePreview directory template recipients : Value} {attachments : List Text}
  {order : Order} {files t : TempFiles} {w v : World} {ls : List Location}

theorem orEmpty_orEmpty (v : Value) : orEmpty (orEmpty v) = orEmpty v := by
  unfold orEmpty
  by_cases hv : v.isTruthy = true
  · rw [if_pos hv, if_pos hv]
  · rw [if_neg hv]
    rfl

/-- **An order is made of a form exactly if it is completed.** -/
theorem order?_eq_ok : order? form forcePreview template recipients attachments = .ok order ↔
    Completed form forcePreview template recipients attachments order := by
  refine ⟨completed_of_order?, fun h => ?_⟩
  rw [order?, h.jobBackoff, h.schedulerDb]
  obtain ⟨get⟩ := order
  refine congrArg (fun g => Except.ok (Order.mk g)) (funext fun f => ?_)
  cases f with
  | csvPath => exact h.csvPath.symm
  | templatePath => exact h.templatePath.symm
  | attachments => exact h.attachments.symm
  | concurrency | retryLimit | batchSize | previewPort | jobRetries => exact (h.number rfl).symm
  | jobBackoff | schedulerDb => rfl
  | showPreview => exact h.showPreview.symm
  | listJobs => exact h.listJobs.symm
  | cancelJobId => exact h.cancelJobId.symm
  | schedulerRun => exact h.schedulerRun.symm
  | _ => exact (h.kept rfl).symm

/-- **An order completes its own form.** -/
theorem Completed.again (h : Completed form forcePreview template recipients attachments order) :
    Completed order.toForm (.bool false) (order.get .templatePath) (order.get .csvPath) attachments
      order where
  kept := by
    intro field source hfield
    cases field <;> cases hfield <;> rfl
  number := by
    intro field source default hfield
    have hsource : order.toForm.get source = order.get field := by
      cases field <;> cases hfield <;> rfl
    rw [hsource, h.number hfield, Defaults.ifUnset_ifUnset]
  csvPath := by rw [h.csvPath, orEmpty_orEmpty]
  templatePath := by rw [h.templatePath, orEmpty_orEmpty]
  attachments := h.attachments
  jobBackoff := Defaults.ifBlank?_ifBlank? rfl h.jobBackoff
  schedulerDb := Defaults.ifBlank?_ifBlank? rfl h.schedulerDb
  showPreview := by
    have hsource : order.toForm.get .showPreview = order.get .showPreview := rfl
    rw [hsource, h.showPreview]
    rfl
  listJobs := h.listJobs
  cancelJobId := h.cancelJobId
  schedulerRun := h.schedulerRun

/-- The form of an order is drafted without a file. -/
theorem draft_toForm (hrecipients : (order.get .csvPath).IsText)
    (h : Completed order.toForm forcePreview (order.get .templatePath) (order.get .csvPath) attachments
      order) (t : TempFiles) (w : World) :
    draft order.toForm forcePreview attachments t w = ((.ok order, t), w) := by
  have hblank : ∃ b, Defaults.isBlank? (order.toForm.get .csvPath) = .ok b :=
    ⟨_, Defaults.isBlank?_of_isText hrecipients⟩
  obtain ⟨b, hblank⟩ := hblank
  have htemplate : Preparation.template order.toForm t w = ((.ok (order.get .templatePath), t), w) :=
    template_of_blank (.inr rfl)
  have hrecipients : Preparation.recipients order.toForm t w = ((.ok (order.get .csvPath), t), w) := by
    rw [recipients_of_blank (.inr rfl), hblank]
    rfl
  rw [draft, Drafting.bind_ok htemplate, Drafting.bind_ok hrecipients, Drafting.lift_apply,
    settle_apply, order?_eq_ok.2 h]

/-! ## What stays true while files are made -/

theorem checkServerConfig_of_found (h : Found form w) :
    checkServerConfig (form.get .envPath) w = (.ok (), w) := by
  obtain ⟨p, hname, hexists⟩ := h
  have hblank : Defaults.isBlank? (form.get .envPath) = .ok false := isBlank?_of_inline? hname
  rw [inline?_eq_some hname] at hblank ⊢
  simp only [checkServerConfig, Act.bind_apply, settle_apply, hblank, Bool.false_eq_true, if_false,
    Act.get_apply, hexists, Bool.not_true]
  rfl

/-- A form that comes to an order has its mail server configuration found. -/
theorem found_of_prepare (h : prepare form forcePreview directory w = (.ok (order, files), v)) :
    Found form w := by
  rcases hcheck : checkServerConfig (form.get .envPath) w with ⟨f | _, u⟩
  · rw [prepare, bind_error hcheck] at h
    cases h
  simp only [checkServerConfig, Act.bind_apply, settle_apply] at hcheck
  rcases hblank : Defaults.isBlank? (form.get .envPath) with f | _ | _ <;> rw [hblank] at hcheck
  · cases hcheck
  · obtain ⟨p, hvalue, hinline⟩ := inline?_of_not_isBlank hblank
    refine ⟨p, hinline, ?_⟩
    rw [hvalue] at hcheck
    cases hexists : w.store.exists p with
    | true => rfl
    | false =>
      simp only [Bool.false_eq_true, if_false, Act.bind_apply, Act.get_apply, hexists, Bool.not_false,
        if_true] at hcheck
      cases hcheck
  · cases hcheck

end Preparation

theorem Store.exists_iff {s : Store} {path : Text} : s.exists path = true ↔
    Path.refusal? path = none ∧ ∃ l n, s.lookup? path = .ok (l, n) := by
  unfold Store.exists guarded
  rcases Path.refusal? path with _ | f
  · rcases s.lookup? path with e | ⟨l, n⟩ <;> simp [about]
  · simp

/-- What exists still does where files were made in free places. -/
theorem World.SameBut.exists {w v : World} {ls : List Location} (h : w.SameBut ls v)
    (hfree : ∀ l ∈ ls, w.store.node? l = none) {path : Text} (hpath : w.store.exists path = true) :
    v.store.exists path = true := by
  obtain ⟨htaken, l, n, hlookup⟩ := exists_iff.1 hpath
  obtain ⟨htakes, hwalk, hnode⟩ := lookup?_eq_ok.1 hlookup
  have hl : l ∉ ls := fun hmem => by
    cases hnode.symm.trans (hfree l hmem)
  have hsome : v.store.node? l ≠ none := fun hnone => by
    cases hnode.symm.trans ((h.vacant l hl).1 hnone)
  obtain ⟨m, hm⟩ := Option.ne_none_iff_exists'.1 hsome
  refine exists_iff.2 ⟨htaken, l, m, lookup?_eq_ok.2 ⟨htakes, ?_, hm⟩⟩
  rw [h.tree.keepsTree.start]
  exact h.tree.keepsTree.walk? hwalk

/-- The working directory is told in the same way. -/
def World.SameHome (w v : World) : Prop := v.cwd = w.cwd

instance : Std.Refl World.SameHome := ⟨fun _ => rfl⟩

instance : Trans World.SameHome World.SameHome World.SameHome := ⟨fun h h' => Eq.trans h' h⟩

theorem sameHome_housekeeping : Housekeeping World.SameHome :=
  .of_files (fun _ _ _ _ => rfl) fun _ _ _ => rfl

namespace Preparation

variable {form : Form} {forcePreview directory : Value} {order : Order} {files : TempFiles} {w v : World}

/-- **Preparing the form of an order gives the same order and makes no file.** Whatever the form and the
preview flag that an order was made with, as long as its files are there: the form that holds what the
order holds is prepared without a preview forced on it, in any directory for temporary files, and comes
to the same order with no files, without a call that makes one. Where the working directory can be told
it is told from the root. -/
theorem prepare_again (hhome : ∀ d, w.cwd = .ok d → Path.isAbsolute d = true)
    (h : prepare form forcePreview directory w = (.ok (order, files), v)) (directory' : Value) :
    ∃ u, prepare order.toForm (.bool false) directory' v =
        (.ok (order, TempFiles.none directory' TempFiles.defaultStem), u) ∧
      v.SameFiles u ∧ u.counts = v.counts := by
  obtain ⟨paths, z, hattachments, hdraft, -⟩ := prepare_stages h
  obtain ⟨value, value', t₁, u, htemplate, hrecipients, horder⟩ := draft_steps hdraft
  have hcompleted := completed_of_order? horder
  have hstem : t₁.stem = TempFiles.defaultStem := (template_ok rfl htemplate).stem.trans rfl
  -- the recipients of the order are a text, so that they can be looked at again
  have htext : (order.get .csvPath).IsText := by
    rw [hcompleted.csvPath]
    rcases recipients_value hstem hrecipients with hnull | ⟨path, hpath⟩
    · exact .inr ⟨[], by rw [hnull]; rfl⟩
    · exact .inr ⟨path, by rw [hpath]; cases path <;> rfl⟩
  -- the two stages before the draft pass in the world that the files were made in
  have hcheck : checkServerConfig (order.toForm.get .envPath) v = (.ok (), v) := by
    obtain ⟨p, hname, hexists⟩ := found_of_prepare h
    have henv : order.toForm.get .envPath = form.get .envPath := hcompleted.kept rfl
    obtain ⟨_, _, hfailed, -⟩ | ⟨_, _, _, hprepared, hdrafted⟩ :=
      prepare_cases form forcePreview directory w
    · cases h.symm.trans hfailed
    cases h.symm.trans hprepared
    exact checkServerConfig_of_found
      ⟨p, henv ▸ hname, hdrafted.same.exists hdrafted.vacant hexists⟩
  have hcwd : v.cwd = w.cwd := by
    have hsame := sameHome_housekeeping.prepare form forcePreview directory w
    rwa [h] at hsame
  have hcollect : Preparation.attachments (order.toForm.get .attachments) v = (.ok paths, v) := by
    have hlist : order.toForm.get .attachments = .list (paths.map .text) :=
      congrArg Value.asList hcompleted.attachments
    have hsettled := Attachments.normalize?_of_settled (Attachments.normalize?_settled hhome hattachments)
    rw [Preparation.attachments, Act.bind_apply, Act.get_apply, hlist]
    simp only [hcwd, hsettled, settle_apply]
  rw [prepare, bind_ok hcheck, bind_ok hcollect]
  simp only [TempFiles.run, Act.bind_apply, draft_toForm htext hcompleted.again]
  exact ⟨_, rfl, log_sameBut _ _ _ v, rfl⟩

/-- In the sample world a form with inline content, a number that is zero, blank text and attachments that
repeat each other is prepared with two files, and the form of its order with none. -/
theorem prepare_again_sample :
    let form := ((Sample.form.set .previewPort (.int 0)).set .jobBackoff (.ofString " ")).set
      .attachments (.list [.ofString "a.pdf", .ofString "/tmp/./a.pdf", .null])
    (∀ d, Sample.world.cwd = .ok d → Path.isAbsolute d = true) ∧ ∃ order files v u,
      prepare form (.bool true) .null Sample.world = (.ok (order, files), v) ∧ files.paths.length = 2 ∧
      prepare order.toForm (.bool false) (.ofString "elsewhere") v =
        (.ok (order, TempFiles.none (.ofString "elsewhere") TempFiles.defaultStem), u) ∧
      v.SameFiles u := by
  intro form
  have hhome : ∀ d, Sample.world.cwd = .ok d → Path.isAbsolute d = true := by
    rintro d ⟨⟩
    rfl
  have hprepared : ((prepare form (.bool true) .null Sample.world).1.toOption.map
      fun result => result.2.paths.length) = some 2 := by decide +kernel
  rcases hrun : prepare form (.bool true) .null Sample.world with ⟨f | ⟨order, files⟩, v⟩ <;>
    rw [hrun] at hprepared
  · cases hprepared
  obtain ⟨u, hagain, hsame, -⟩ := prepare_again hhome hrun (.ofString "elsewhere")
  exact ⟨hhome, order, files, v, u, rfl, Option.some.inj hprepared, hagain, hsame⟩

end Preparation

end CampaignDesk
