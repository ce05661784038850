import CampaignDesk.Proofs.Form.RoundTrip
import CampaignDesk.Proofs.Order.Completion

/-!
# Unset is unset

A field for a number is left unset by leaving it out or by a zero; some fields for texts by leaving them out
or by a blank text. An operation cannot tell one spelling from another.

* `Form.Field.spelling?`: the fields that can be left unset by a value, and by which one.
* `Form.Alike`: forms that differ only in how they spell that a field is unset.
  `Dispatch.perform_alike`: **an operation does the same for both.**
* `Form.Interchangeable`: payloads that differ only so. `Form.interchangeable_overlaid`: zeros and blank
  texts may be put wherever a payload leaves a field unset.
* `Dispatch.Defaulted`: an order holds the defaults for what a payload leaves unset.
* `Dispatch.unset_is_unset`: **an operation on either payload fails with the same failure before an engine
  is called, or hands the same engine the same order in the same world.**
-/

namespace CampaignDesk

open Act

/-! ## Spellings -/

/-- How a value spells that a field is unset. -/
inductive Spelling
  | zero
  | blank
deriving DecidableEq

namespace Spelling

variable {v : Value}

/-- The values that spell it. -/
def spells : Spelling → Value → Bool
  | .zero, v => v.isZero
  | .blank, .text t => t.isBlank
  | .blank, _ => false

theorem ne_null_of_spells {s : Spelling} (h : s.spells v = true) : v ≠ .null := by
  rintro rfl
  cases s <;> cases h

/-- Nothing spells it too. -/
def Leaves (s : Spelling) (v : Value) : Prop := v = .null ∨ s.spells v = true

theorem ifUnset_of_leaves (h : zero.Leaves v) (default : Value) :
    Defaults.ifUnset v default = default := by
  rcases h with rfl | h
  · rfl
  · exact if_pos (Bool.or_eq_true_iff.2 (.inr h))

theorem isBlank?_of_leaves (h : blank.Leaves v) : Defaults.isBlank? v = .ok true := by
  rcases h with rfl | h
  · rfl
  · cases v with
    | text t => exact congrArg Except.ok h
    | _ => cases h

theorem ifBlank?_of_leaves (h : blank.Leaves v) (default : Value) :
    Defaults.ifBlank? v default = .ok default := by
  rw [Defaults.ifBlank?, isBlank?_of_leaves h]
  rfl

end Spelling

namespace Form

/-- How a field may be left unset by a value. -/
def Field.spelling? : Field → Option Spelling
  | .previewPort | .concurrency | .retryLimit | .batchSize | .jobRetries => some .zero
  | .jobBackoff | .schedulerDb | .templateHtml | .csvContent => some .blank
  | _ => none

/-- A field starts unset. -/
theorem Field.initial_leaves {f : Field} {s : Spelling} (h : f.spelling? = some s) :
    s.Leaves f.initial := by
  cases f <;> cases h
  case previewPort | concurrency | retryLimit | batchSize | jobRetries => exact .inl rfl
  all_goals exact .inr rfl

/-- **The forms agree except for how they spell that a field is unset.** -/
def Alike (a b : Form) : Prop :=
  ∀ f, a.get f = b.get f ∨ ∃ s, f.spelling? = some s ∧ s.Leaves (a.get f) ∧ s.Leaves (b.get f)

namespace Alike

variable {a b : Form} {f : Field} (h : a.Alike b)

include h

theorem get_eq (hf : f.spelling? = none) : a.get f = b.get f := by
  rcases h f with heq | ⟨s, hs, -⟩
  · exact heq
  · cases hf.symm.trans hs

theorem eq_or_leaves {s : Spelling} (hf : f.spelling? = some s) :
    a.get f = b.get f ∨ s.Leaves (a.get f) ∧ s.Leaves (b.get f) := by
  rcases h f with heq | ⟨s', hs, hleaves⟩
  · exact .inl heq
  · cases hf.symm.trans hs
    exact .inr hleaves

theorem ifUnset (hf : f.spelling? = some .zero) (default : Value) :
    Defaults.ifUnset (a.get f) default = Defaults.ifUnset (b.get f) default := by
  rcases h.eq_or_leaves hf with heq | ⟨ha, hb⟩
  · rw [heq]
  · rw [Spelling.ifUnset_of_leaves ha, Spelling.ifUnset_of_leaves hb]

theorem ifBlank? (hf : f.spelling? = some .blank) (default : Value) :
    Defaults.ifBlank? (a.get f) default = Defaults.ifBlank? (b.get f) default := by
  rcases h.eq_or_leaves hf with heq | ⟨ha, hb⟩
  · rw [heq]
  · rw [Spelling.ifBlank?_of_leaves ha, Spelling.ifBlank?_of_leaves hb]

end Alike

end Form

/-! ## Stages of a preparation -/

namespace Preparation

open Form (Alike)

variable {form a b : Form} {t : TempFiles} {w : World}

/-- A blank template leaves the path, and nothing is written. -/
theorem template_of_blank (h : Spelling.blank.Leaves (form.get .templateHtml)) :
    template form t w = ((.ok (form.get .templatePath), t), w) := by
  rw [template, Drafting.bind_apply]
  simp only [Drafting.lift_apply, settle_apply, Spelling.isBlank?_of_leaves h]
  rfl

/-- Blank recipients leave the path, whether there is one or not, and nothing is written. -/
theorem recipients_of_blank (h : Spelling.blank.Leaves (form.get .csvContent)) :
    recipients form t w =
      (((Defaults.isBlank? (form.get .csvPath)).map fun _ => form.get .csvPath, t), w) := by
  rw [recipients, Drafting.bind_apply]
  simp only [Drafting.lift_apply, settle_apply]
  rcases Defaults.isBlank? (form.get .csvPath) with f | _ | _
  · rfl
  · rfl
  · simp only [Bool.not_true, Bool.false_eq_true, if_false]
    rw [Drafting.bind_apply]
    simp only [Drafting.lift_apply, settle_apply, Spelling.isBlank?_of_leaves h]
    rfl

theorem template_alike (h : a.Alike b) : template a = template b := by
  rcases h.eq_or_leaves (f := .templateHtml) rfl with heq | ⟨ha, hb⟩
  · rw [template, template, heq, h.get_eq (f := .templatePath) rfl]
  · funext t w
    rw [template_of_blank ha, template_of_blank hb, h.get_eq rfl]

theorem recipients_alike (h : a.Alike b) : recipients a = recipients b := by
  rcases h.eq_or_leaves (f := .csvContent) rfl with heq | ⟨ha, hb⟩
  · rw [recipients, recipients, heq, h.get_eq (f := .csvPath) rfl]
  · funext t w
    rw [recipients_of_blank ha, recipients_of_blank hb, h.get_eq rfl]

theorem order?_alike (h : a.Alike b) : order? a = order? b := by
  funext forcePreview template recipients attachments
  have hget : ∀ f : Form.Field, f.spelling? = none → a.get f = b.get f := fun f => h.get_eq
  have hunset : ∀ f : Form.Field, f.spelling? = some .zero → ∀ default,
      Defaults.ifUnset (a.get f) default = Defaults.ifUnset (b.get f) default := fun f => h.ifUnset
  have hblank : ∀ f : Form.Field, f.spelling? = some .blank → ∀ default,
      Defaults.ifBlank? (a.get f) default = Defaults.ifBlank? (b.get f) default := fun f => h.ifBlank?
  simp (disch := decide) only [order?, hget, hunset, hblank]

/-- **Forms that are alike are prepared alike.** -/
theorem prepare_alike (h : a.Alike b) : prepare a = prepare b := by
  have hdraft : draft a = draft b := by
    funext forcePreview attachments
    rw [draft, draft, template_alike h, recipients_alike h, order?_alike h]
  funext forcePreview directory
  rw [prepare, prepare, hdraft, h.get_eq (f := .envPath) rfl, h.get_eq (f := .attachments) rfl]

end Preparation

/-! ## Payloads -/

namespace Form

open Value (Distinct)

variable {p q : Entries} {a b : Form} {f : Field}

/-- The payload leaves the field unset: it gives it nothing, or a value that spells it. -/
def Unset (payload : Entries) (f : Field) : Prop :=
  ∀ v, Gives payload f v → ∃ s, f.spelling? = some s ∧ s.spells v = true

/-- **The payloads give every field the same, except for how they spell that a field is unset.** -/
def Interchangeable (p q : Entries) : Prop :=
  ∀ f, (∀ v, Gives p f v ↔ Gives q f v) ∨ Unset p f ∧ Unset q f

/-- A field that cannot be left unset by a value is given the same. -/
theorem Interchangeable.gives (h : Interchangeable p q) (hf : f.spelling? = none) (v : Value) :
    Gives p f v ↔ Gives q f v := by
  rcases h f with hsame | ⟨hp, hq⟩
  · exact hsame v
  · refine ⟨fun hv => ?_, fun hv => ?_⟩
    · obtain ⟨s, hs, -⟩ := hp v hv
      cases hf.symm.trans hs
    · obtain ⟨s, hs, -⟩ := hq v hv
      cases hf.symm.trans hs

/-- A field that one of them leaves unset is left unset by the other. -/
theorem Interchangeable.unset (h : Interchangeable p q) (hf : Unset p f) : Unset q f := by
  rcases h f with hsame | ⟨-, hq⟩
  · exact fun v hv => hf v ((hsame v).2 hv)
  · exact hq

theorem Interchangeable.trans {r : Entries} (h : Interchangeable p q) (h' : Interchangeable q r) :
    Interchangeable p r := by
  intro f
  rcases h f with hsame | ⟨hp, hq⟩
  · rcases h' f with hsame' | ⟨hq, hr⟩
    · exact .inl fun v => (hsame v).trans (hsame' v)
    · exact .inr ⟨fun v hv => hq v ((hsame v).1 hv), hr⟩
  · exact .inr ⟨hp, h'.unset hq⟩

/-- A payload that leaves a field unset may spell it. -/
theorem interchangeable_insert {s : Spelling} {v : Value} (hd : Distinct p) (hunset : Unset p f)
    (hs : f.spelling? = some s) (hv : s.spells v = true) :
    Interchangeable p (Value.insert p (.ofString f.payloadKey) v) := by
  have ho := hd.insert (Text.ofString f.payloadKey) v
  have hgiven (g : Field) : given? (Value.insert p (.ofString f.payloadKey) v) g =
      if g = f then some v else given? p g := given?_insert (Spelling.ne_null_of_spells hv) g
  intro g
  by_cases hg : g = f
  · subst hg
    refine .inr ⟨hunset, fun u hu => ⟨s, hs, ?_⟩⟩
    rw [← given?_eq_some ho, hgiven, if_pos rfl] at hu
    cases hu
    exact hv
  · refine .inl fun u => ?_
    rw [← given?_eq_some hd, ← given?_eq_some ho, hgiven, if_neg hg]

/-- **A payload may spell any of the fields that it leaves unset.** -/
theorem interchangeable_overlaid {changes : List (Field × Value)} (hd : Distinct p)
    (h : ∀ c ∈ changes, Unset p c.1 ∧ ∃ s, c.1.spelling? = some s ∧ s.spells c.2 = true) :
    Interchangeable p (overlaid p changes) := by
  induction changes generalizing p with
  | nil => exact fun f => .inl fun v => .rfl
  | cons c rest ih =>
    obtain ⟨hunset, s, hs, hv⟩ := h c List.mem_cons_self
    -- the fields of the other changes are still unset once the first one is made
    have hfirst := interchangeable_insert hd hunset hs hv
    refine hfirst.trans (ih (hd.insert _ _) fun d hmem => ?_)
    obtain ⟨hunset', hspelt⟩ := h d (List.mem_cons_of_mem c hmem)
    exact ⟨hfirst.unset hunset', hspelt⟩

/-- A field that a payload leaves unset is left so in its form. -/
theorem Unset.leaves {s : Spelling} (h : Unset p f) (hdescribes : Describes p a)
    (hs : f.spelling? = some s) : s.Leaves (a.get f) := by
  rcases hdescribes f with ⟨v, hgives, htaken⟩ | ⟨-, heq⟩
  · obtain ⟨s', hs', hspells⟩ := h v hgives
    cases hs.symm.trans hs'
    have hf : f ≠ .attachments := by
      rintro rfl
      cases hs
    rw [Taken, if_neg hf] at htaken
    rw [htaken]
    exact .inr hspells
  · rw [heq]
    exact Field.initial_leaves hs

/-- **Interchangeable payloads describe forms that are alike.** -/
theorem Interchangeable.alike (h : Interchangeable p q) (hq : Distinct q) (ha : Describes p a)
    (hb : Describes q b) : a.Alike b := by
  intro f
  rcases hs : f.spelling? with _ | s
  · -- a field that no value leaves unset can only be left out by both
    exact .inl (ha.get_congr hq hb (h.gives hs))
  rcases h f with hsame | ⟨hunset, hunset'⟩
  · exact .inl (ha.get_congr hq hb hsame)
  · exact .inr ⟨s, rfl, hunset.leaves ha hs, hunset'.leaves hb hs⟩

/-- Interchangeable payloads fail alike to describe a form, or describe forms that are alike. -/
theorem Interchangeable.forms (h : Interchangeable p q) (hp : Distinct p) (hq : Distinct q) :
    (∃ e, ofPayload? (.dict p) = .error e ∧ ofPayload? (.dict q) = .error e) ∨
    ∃ a b, ofPayload? (.dict p) = .ok a ∧ ofPayload? (.dict q) = .ok b ∧ a.Alike b := by
  have hattachments := h.gives (f := .attachments) rfl
  have herror : ∀ e, ofPayload? (.dict p) = .error e ↔ ofPayload? (.dict q) = .error e := by
    intro e
    simp only [ofPayload?_eq_error hp, ofPayload?_eq_error hq, hattachments]
  rcases ha : ofPayload? (.dict p) with e | a
  · exact .inl ⟨e, rfl, (herror e).1 ha⟩
  rcases hb : ofPayload? (.dict q) with e | b
  · cases ha.symm.trans ((herror e).2 hb)
  · exact .inr ⟨a, b, rfl, rfl, h.alike hq ((ofPayload?_eq_ok hp).1 ha) ((ofPayload?_eq_ok hq).1 hb)⟩

end Form

/-! ## Operations -/

namespace Dispatch

open Value (Distinct)
open Form (Alike Interchangeable)

variable {operation : Campaign} {p q : Entries} {a b : Form}

/-- An operation on the form of a payload. -/
def submit (call : Call) (operation : Campaign) (payload : Value) : Act Unit := do
  perform call operation (← Act.settle (Form.ofPayload? payload))

/-- The moment at which an operation on the form of a payload calls an engine, if it comes to that. -/
def submitted? (operation : Campaign) (payload : Value) (w : World) : Option Entered :=
  match Form.ofPayload? payload with
  | .ok form => entered? operation form w
  | .error _ => none

/-- **An operation does the same for forms that are alike**, whatever the engine. -/
theorem perform_alike (h : a.Alike b) (call : Call) (operation : Campaign) :
    perform call operation a = perform call operation b := by
  rw [perform, perform, Preparation.prepare_alike h]

theorem entered?_alike (h : a.Alike b) (operation : Campaign) :
    entered? operation a = entered? operation b := by
  funext w
  rw [entered?, entered?, Preparation.prepare_alike h]

/-- An operation on a payload comes to its call, or fails before. -/
theorem submit_cases (operation : Campaign) (payload : Value) (w : World) :
    (∃ x, submitted? operation payload w = some x ∧ ∀ call, submit call operation payload w =
      leave operation x.files (call x.engine x.order x.world)) ∨
    submitted? operation payload w = none ∧ ∃ f v,
      ∀ call, submit call operation payload w = (.error f, v) := by
  simp only [submit, submitted?, bind_apply, settle_apply]
  rcases Form.ofPayload? payload with f | form
  · exact .inr ⟨rfl, f, w, fun _ => rfl⟩
  · rcases perform_cases operation form w with ⟨x, hx, hcall⟩ | ⟨hnone, f, v, hcall, -⟩
    · exact .inl ⟨x, hx, hcall⟩
    · exact .inr ⟨hnone, f, v, hcall⟩

/-- An operation does the same for interchangeable payloads. -/
theorem submit_interchangeable (h : Interchangeable p q) (hp : Distinct p) (hq : Distinct q) :
    (∀ call operation, submit call operation (.dict p) = submit call operation (.dict q)) ∧
      ∀ operation, submitted? operation (.dict p) = submitted? operation (.dict q) := by
  have hgo (call : Call) (operation : Campaign) (form : Form) :
      (do perform call operation (← settle (.ok form)) : Act Unit) = perform call operation form := rfl
  unfold submit submitted?
  rcases h.forms hp hq with ⟨e, hpe, hqe⟩ | ⟨a, b, ha, hb, halike⟩
  · simp only [hpe, hqe, implies_true, and_self]
  · simp only [ha, hb, hgo, perform_alike halike, entered?_alike halike, implies_true, and_self]

/-- The order holds the defaults where the payload leaves a field unset. -/
structure Defaulted (payload : Entries) (order : Order) : Prop where
  number : ∀ {field source default}, Order.Field.number? field = some (source, default) →
    Form.Unset payload source → order.get field = default
  jobBackoff : Form.Unset payload .jobBackoff → order.get .jobBackoff = Defaults.jobBackoff
  schedulerDb : Form.Unset payload .schedulerDb → order.get .schedulerDb = Defaults.schedulerDb

/-- **An engine is handed the defaults for what a payload leaves unset.** -/
theorem Entered.defaulted {w : World} {x : Entered} (hp : Distinct p)
    (h : submitted? operation (.dict p) w = some x) : Defaulted p x.order := by
  unfold submitted? at h
  rcases hform : Form.ofPayload? (.dict p) with f | form <;> rw [hform] at h
  · cases h
  have hdescribes := (Form.ofPayload?_eq_ok hp).1 hform
  obtain ⟨v, hprep⟩ := Entered.prepared h
  obtain ⟨-, template, recipients, attachments, hcompleted, -⟩ := Preparation.prepare_completed hprep
  refine ⟨fun {field source default} hfield hunset => ?_, fun hunset => ?_, fun hunset => ?_⟩
  · have hs : source.spelling? = some .zero := by
      cases field <;> cases hfield <;> rfl
    rw [hcompleted.number hfield, Spelling.ifUnset_of_leaves (hunset.leaves hdescribes hs)]
  · have hbackoff := hcompleted.jobBackoff
    rw [Spelling.ifBlank?_of_leaves (hunset.leaves hdescribes rfl)] at hbackoff
    exact (Except.ok.inj hbackoff).symm
  · have hdb := hcompleted.schedulerDb
    rw [Spelling.ifBlank?_of_leaves (hunset.leaves hdescribes rfl)] at hdb
    exact (Except.ok.inj hdb).symm

/-- **Unset is unset.** From the same world, an operation on either of two interchangeable payloads fails
with the same failure before an engine is called, leaving the same world, or hands the same engine the same
order with the same files in the same world, where the order holds the defaults for what is unset; and the
user is told the same in the end. -/
theorem unset_is_unset (hp : Distinct p) (hq : Distinct q) (h : Interchangeable p q)
    (operation : Campaign) (w : World) :
    ((∃ f v, submitted? operation (.dict p) w = none ∧ submitted? operation (.dict q) w = none ∧
        ∀ call, submit call operation (.dict p) w = (.error f, v) ∧
          submit call operation (.dict q) w = (.error f, v)) ∨
      ∃ x, submitted? operation (.dict p) w = some x ∧ submitted? operation (.dict q) w = some x ∧
        Defaulted p x.order ∧
        ∀ call, submit call operation (.dict p) w =
            leave operation x.files (call x.engine x.order x.world) ∧
          submit call operation (.dict q) w =
            leave operation x.files (call x.engine x.order x.world)) ∧
    ∀ call, Desk.ask call operation (Form.ofPayload? (.dict p)) w =
      Desk.ask call operation (Form.ofPayload? (.dict q)) w := by
  obtain ⟨hsubmit, hsubmitted⟩ := submit_interchangeable h hp hq
  constructor
  · simp only [hsubmit, hsubmitted]
    rcases submit_cases operation (.dict q) w with ⟨x, hx, hcall⟩ | ⟨hnone, f, v, hcall⟩
    · have hdefaulted : Defaulted p x.order := Entered.defaulted hp (hsubmitted operation ▸ hx)
      exact .inr ⟨x, hx, hx, hdefaulted, fun call => ⟨hcall call, hcall call⟩⟩
    · exact .inl ⟨f, v, hnone, hnone, fun call => ⟨hcall call, hcall call⟩⟩
  · intro call
    have hask (payload : Value) : Desk.ask call operation (Form.ofPayload? payload) =
        Desk.invoke (submit call operation payload) (Desk.successMessage operation) := rfl
    rw [hask, hask, hsubmit]

/-- A payload that gives paths for its template and its recipients, and nothing that can be left unset. -/
def brief : Entries := [
  (.ofString "envPath", .ofString "mail.json"), (.ofString "templatePath", .ofString "a.html"),
  (.ofString "csv_path", .ofString "a.csv")]

/-- Zeros and blank texts for the fields that it leaves unset. -/
def untouched : List (Form.Field × Value) := [
  (.previewPort, .int 0), (.concurrency, .int 0), (.retryLimit, .bool false), (.batchSize, .int 0),
  (.jobRetries, .int 0), (.jobBackoff, .text []), (.schedulerDb, .ofString " "),
  (.templateHtml, .text [0x2003, 0x0A]), (.csvContent, .ofString "\t")]

/-- The brief payload, as it is and with everything spelled out, has the engine called with the same
order. -/
theorem unset_is_unset_of_brief :
    Distinct brief ∧ Distinct (Form.overlaid brief untouched) ∧
      Interchangeable brief (Form.overlaid brief untouched) ∧
      ∃ x, submitted? .run (.dict brief) Sample.world = some x ∧
        submitted? .run (.dict (Form.overlaid brief untouched)) Sample.world = some x ∧
        x.order.get .previewPort = Defaults.previewPort := by
  have hp : Distinct brief := by decide +kernel
  have hq : Distinct (Form.overlaid brief untouched) := by decide +kernel
  have hunset : ∀ c ∈ untouched, Form.Unset brief c.1 := by
    intro c hc v hv
    have hnone : ∀ c ∈ untouched, (Form.given? brief c.1).isNone = true := by decide +kernel
    rw [← Form.given?_eq_some hp, Option.isNone_iff_eq_none.1 (hnone c hc)] at hv
    cases hv
  have hspelled : ∀ c ∈ untouched, ∃ s, c.1.spelling? = some s ∧ s.spells c.2 = true := by
    have hany : ∀ c ∈ untouched, c.1.spelling?.any (·.spells c.2) = true := by decide +kernel
    exact fun c hc => (Option.any_eq_true _ _).1 (hany c hc)
  have hsame : Interchangeable brief (Form.overlaid brief untouched) :=
    Form.interchangeable_overlaid hp fun c hc => ⟨hunset c hc, hspelled c hc⟩
  refine ⟨hp, hq, hsame, ?_⟩
  rcases (unset_is_unset hp hq hsame .run Sample.world).1 with
    ⟨f, v, hnone, -⟩ | ⟨x, hx, hx', hdefaulted, -⟩
  · have hsome : (submitted? .run (.dict brief) Sample.world).isSome = true := by decide +kernel
    rw [hnone] at hsome
    cases hsome
  · exact ⟨x, hx, hx', hdefaulted.number rfl (hunset (.previewPort, .int 0) List.mem_cons_self)⟩

end Dispatch

end CampaignDesk
