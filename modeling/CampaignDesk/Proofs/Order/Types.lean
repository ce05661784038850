import CampaignDesk.Proofs.Order.Completion

/-!
# The types of the fields of an order

A payload may give any field a value of any type. Some fields are checked on the way to an order, the
others are taken over unchecked.

* `Value.HasType`, `Order.Field.type`: values of a type, and the type each field is declared with.
* `Order.Field.unchecked?`: the fields that are taken over unchecked. `Form.Fits`: a field is checked, or
  the form holds a value of its type, or the order holds something else in place of that value.
* `Preparation.hasType_iff`: **a field of an order has its declared type exactly if the form fits it.**
* `orders_are_typed_as_given`: the same for every payload that comes to an engine call.
-/

namespace CampaignDesk

/-- The types that the fields of an order are declared with. -/
inductive FieldType
  | text
  | number
  | flag
  | paths

/-- The value has the type. A truth value counts as a number too. -/
inductive Value.HasType : FieldType → Value → Prop
  | text (t : Text) : HasType .text (.text t)
  | int (n : Int) : HasType .number (.int n)
  | digit (b : Bool) : HasType .number (.bool b)
  | flag (b : Bool) : HasType .flag (.bool b)
  | paths (ts : List Text) : HasType .paths (.tuple (ts.map .text))

namespace Order.Field

/-- The type that a field is declared with. -/
def type : Order.Field → FieldType
  | .attachments => .paths
  | .concurrency | .retryLimit | .batchSize | .previewPort | .jobRetries => .number
  | .dryRun | .showPreview | .listJobs | .schedulerRun => .flag
  | _ => .text

/-- The field of a form whose value an order takes over without a check of its type. -/
def unchecked? (field : Order.Field) : Option Form.Field :=
  match field with
  | .envPath => none
  | .templatePath => some .templatePath
  | _ => field.kept?.or (field.number?.map Prod.fst)

/-- Every default number is a number. -/
theorem number?_hasType {field : Order.Field} {source : Form.Field} {default : Value}
    (h : field.number? = some (source, default)) : default.HasType field.type := by
  cases field <;> cases h <;> exact .int _

end Order.Field

/-- An order holds something else in place of what the form holds: a default number, or the path of an
inline template. -/
def Form.Replaced (form : Form) : Order.Field → Prop
  | .templatePath =>
    Preparation.inline? (form.get .templateHtml) ≠ none ∨
      (form.get .templatePath).isTruthy = false
  | field => ∃ source default, field.number? = some (source, default) ∧
    ((form.get source).isNull || (form.get source).isZero) = true

/-- A field is checked, or the form holds a value of its type, or the order holds something else. -/
def Form.Fits (form : Form) (field : Order.Field) : Prop :=
  ∀ source, field.unchecked? = some source →
    (form.get source).HasType field.type ∨ form.Replaced field

theorem Form.fits_of_checked {form : Form} {field : Order.Field} (h : field.unchecked? = none) :
    form.Fits field := by
  intro source hsource
  cases h.symm.trans hsource

theorem Form.fits_iff {form : Form} {field : Order.Field} {source : Form.Field}
    (h : field.unchecked? = some source) :
    form.Fits field ↔ (form.get source).HasType field.type ∨ form.Replaced field := by
  constructor
  · intro hfits
    exact hfits source h
  · intro hfits source' hsource
    cases h.symm.trans hsource
    exact hfits

namespace Value

/-- A text or nothing, with the empty text for what counts as nothing, is a text. -/
theorem IsText.orEmpty_hasType {v : Value} (h : v.IsText) : (Preparation.orEmpty v).HasType .text := by
  rcases h with rfl | ⟨t, rfl⟩
  · exact .text []
  · by_cases htruthy : (Value.text t).isTruthy = true
    · rw [Preparation.orEmpty, if_pos htruthy]
      exact .text t
    · rw [Preparation.orEmpty, if_neg htruthy]
      exact .text []

end Value

namespace Preparation

variable {form : Form} {forcePreview template recipients : Value} {attachments : List Text}
  {order : Order}

/-- A text that is looked at for being blank, and a default text, make a text. -/
theorem hasType_of_ifBlank? {value default result : Value} (hdefault : inline? default ≠ none)
    (h : Defaults.ifBlank? value default = .ok result) : result.HasType .text := by
  have hresult : inline? result ≠ none := ifBlank?_eq_ok hdefault h
  obtain ⟨content, hcontent⟩ := Option.ne_none_iff_exists'.1 hresult
  rw [inline?_eq_some hcontent]
  exact .text content

namespace Completed

variable (hc : Completed form forcePreview template recipients attachments order)

include hc

/-- A value that is taken over as it is has the type that it was given with. -/
theorem kept_hasType_iff {field : Order.Field} {source : Form.Field}
    (hkept : field.kept? = some source) (hchecked : field ≠ .envPath) :
    (order.get field).HasType field.type ↔ form.Fits field := by
  have hsource : field.unchecked? = some source := by
    cases field <;> first | exact absurd rfl hchecked | (cases hkept <;> rfl)
  have hnever : ¬ form.Replaced field := by
    cases field <;> first | (cases hkept; done) | rintro ⟨_, _, ⟨⟩, -⟩
  rw [Form.fits_iff hsource, hc.kept hkept]
  exact ⟨.inl, fun h => h.resolve_right hnever⟩

/-- A number that is not replaced by its default has the type that it was given with. -/
theorem number_hasType_iff {field : Order.Field} {source : Form.Field} {default : Value}
    (hnumber : field.number? = some (source, default)) :
    (order.get field).HasType field.type ↔ form.Fits field := by
  have hsource : field.unchecked? = some source := by
    cases field <;> cases hnumber <;> rfl
  have hreplaced : form.Replaced field ↔
      ((form.get source).isNull || (form.get source).isZero) = true := by
    have hunfold : form.Replaced field ↔ ∃ source default,
        field.number? = some (source, default) ∧
          ((form.get source).isNull || (form.get source).isZero) = true := by
      cases field <;> first | exact Iff.rfl | cases hnumber
    rw [hunfold]
    constructor
    · rintro ⟨_, _, hother, hunset⟩
      cases hnumber.symm.trans hother
      exact hunset
    · intro hunset
      exact ⟨source, default, hnumber, hunset⟩
  rw [Form.fits_iff hsource, hreplaced, hc.number hnumber, Defaults.ifUnset]
  by_cases hunset : ((form.get source).isNull || (form.get source).isZero) = true
  · rw [if_pos hunset]
    exact ⟨fun _ => .inr hunset, fun _ => Order.Field.number?_hasType hnumber⟩
  · rw [if_neg hunset]
    exact ⟨.inl, fun h => h.resolve_right hunset⟩

/-- The template is a text if it comes inline, if none is named, or if what is named is a text. -/
theorem template_hasType_iff
    (htemplate : (inline? (form.get .templateHtml) = none ∧ template = form.get .templatePath) ∨
      (inline? (form.get .templateHtml) ≠ none ∧ ∃ path, template = .text path)) :
    (order.get .templatePath).HasType .text ↔ form.Fits .templatePath := by
  rw [Form.fits_iff rfl, hc.templatePath]
  rcases htemplate with ⟨hblank, rfl⟩ | ⟨hinline, path, rfl⟩
  · by_cases htruthy : (form.get .templatePath).isTruthy = true
    · -- what is named stays as it is
      rw [orEmpty, if_pos htruthy]
      refine ⟨.inl, fun h => h.resolve_right ?_⟩
      rintro (hinline | hnothing)
      · exact hinline hblank
      · exact absurd htruthy (by simp [hnothing])
    · rw [orEmpty, if_neg htruthy]
      exact ⟨fun _ => .inr (.inr (Bool.eq_false_iff.2 htruthy)), fun _ => .text []⟩
  · have htext : (Value.text path).IsText := .inr ⟨path, rfl⟩
    exact ⟨fun _ => .inr (.inl hinline), fun _ => htext.orEmpty_hasType⟩

end Completed

/-- **A field of an order has its declared type exactly if the form fits it**: what is checked always
has it, and what is taken over unchecked has it if it was given so. -/
theorem hasType_iff {directory : Value} {files : TempFiles} {w v : World}
    (h : prepare form forcePreview directory w = (.ok (order, files), v)) (field : Order.Field) :
    (order.get field).HasType field.type ↔ form.Fits field := by
  obtain ⟨hnamed, template, recipients, paths, hc, htemplate, hrecipients⟩ := prepare_completed h
  have checked (hfield : field.unchecked? = none) (htype : (order.get field).HasType field.type) :
      (order.get field).HasType field.type ↔ form.Fits field :=
    ⟨fun _ => Form.fits_of_checked hfield, fun _ => htype⟩
  cases field with
  | templatePath => exact hc.template_hasType_iff htemplate
  | concurrency | retryLimit | batchSize | previewPort | jobRetries => exact hc.number_hasType_iff rfl
  | envPath =>
    obtain ⟨name, hname⟩ := Option.ne_none_iff_exists'.1 hnamed
    have henv : order.get .envPath = .text name := (hc.kept rfl).trans (inline?_eq_some hname)
    exact checked rfl (henv ▸ .text name)
  | csvPath => exact checked rfl (hc.csvPath ▸ hrecipients.orEmpty_hasType)
  | attachments => exact checked rfl (hc.attachments ▸ .paths paths)
  | jobBackoff => exact checked rfl (hasType_of_ifBlank? (by decide) hc.jobBackoff)
  | schedulerDb => exact checked rfl (hasType_of_ifBlank? (by decide) hc.schedulerDb)
  | showPreview => exact checked rfl (hc.showPreview ▸ .flag _)
  | listJobs => exact checked rfl (hc.listJobs ▸ .flag _)
  | cancelJobId => exact checked rfl (hc.cancelJobId ▸ .text _)
  | schedulerRun => exact checked rfl (hc.schedulerRun ▸ .flag _)
  | _ => exact hc.kept_hasType_iff rfl nofun

end Preparation

namespace Dispatch

/-- **The fields of an order are typed as they were given.** For every payload, an operation fails
without an engine call, be it that the payload gives no form or that the operation fails, in the same
way for every engine; or the engine is called with an order in which a field has its declared type
exactly if the form fits it. -/
theorem orders_are_typed_as_given (payload : Entries) (operation : Campaign) (w : World) :
    (∃ f, Form.ofPayload? (.dict payload) = .error f) ∨
    ∃ form, Form.ofPayload? (.dict payload) = .ok form ∧
      ((∃ f v, ∀ call, perform call operation form w = (.error f, v)) ∨
        ∃ x, entered? operation form w = some x ∧
          (∀ call, perform call operation form w =
            leave operation x.files (call x.engine x.order x.world)) ∧
          ∀ field, (x.order.get field).HasType field.type ↔ form.Fits field) := by
  rcases hform : Form.ofPayload? (.dict payload) with f | form
  · exact .inl ⟨f, rfl⟩
  refine .inr ⟨form, rfl, ?_⟩
  rcases perform_cases operation form w with ⟨x, hentered, hperform⟩ | ⟨-, f, v, hfails, -⟩
  · obtain ⟨v, hprepared⟩ := Entered.prepared hentered
    exact .inr ⟨x, hentered, hperform, Preparation.hasType_iff hprepared⟩
  · exact .inl ⟨f, v, hfails⟩

/-- A payload with a number for a subject comes to an engine call, and the subject of the order is that
number. -/
theorem subject_stays_a_number : ∃ form x,
    Form.ofPayload? (.dict [(.ofString "envPath", .ofString "mail.json"),
      (.ofString "subject", .int 5)]) = .ok form ∧
    entered? .run form Sample.world = some x ∧
    (∀ call, perform call .run form Sample.world =
      leave .run x.files (call x.engine x.order x.world)) ∧
    ¬ (x.order.get .subject).HasType Order.Field.subject.type := by
  obtain ⟨form, hform, hsubject, hentered⟩ : ∃ form,
      Form.ofPayload? (.dict [(.ofString "envPath", .ofString "mail.json"),
        (.ofString "subject", .int 5)]) = .ok form ∧
      form.get .subject = .int 5 ∧ (entered? .run form Sample.world).isSome = true :=
    ⟨_, rfl, rfl, by decide +kernel⟩
  rcases perform_cases .run form Sample.world with ⟨x, hx, hperform⟩ | ⟨hnone, -⟩
  · obtain ⟨v, hprepared⟩ := Entered.prepared hx
    obtain ⟨-, _, _, _, hc, -⟩ := Preparation.prepare_completed hprepared
    refine ⟨form, x, hform, hx, hperform, ?_⟩
    rw [hc.kept rfl, hsubject]
    exact nofun
  · rw [hnone] at hentered
    cases hentered

end Dispatch

end CampaignDesk
