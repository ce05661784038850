import CampaignDesk.Dispatch
import CampaignDesk.Proofs.TempFiles

/-!
# Ordinary failures

A failure that is no ordinary one asks the program to stop.

* `Ordinary`: an outcome that does not ask for this. Outcomes put together from ordinary ones are
  ordinary.
* `Store.guarded_ordinary`, `Form.ofPayload?_ordinary`, `Attachments.normalize?_ordinary`,
  `Preparation.order?_ordinary`, `Registry.surveyFrom_ordinary`: **no part makes such a failure
  itself.**
-/

namespace CampaignDesk

variable {α β : Type}

/-- A value or an ordinary failure. -/
def Ordinary (outcome : Except Failure α) : Prop :=
  ∀ f, outcome = .error f → f.kind.isOrdinary = true

theorem ordinary_ok (a : α) : Ordinary (.ok a : Except Failure α) := nofun

theorem ordinary_error {f : Failure} (hf : f.kind.isOrdinary = true) :
    Ordinary (.error f : Except Failure α) := by
  rintro g ⟨⟩
  exact hf

theorem Ordinary.bind {outcome : Except Failure α} {next : α → Except Failure β}
    (h : Ordinary outcome) (h' : ∀ a, Ordinary (next a)) : Ordinary (outcome >>= next) := by
  cases outcome with
  | ok a => exact h' a
  | error f => exact ordinary_error (h f rfl)

theorem Ordinary.map {outcome : Except Failure α} (h : Ordinary outcome) (g : α → β) :
    Ordinary (outcome.map g) := by
  cases outcome with
  | ok a => exact ordinary_ok _
  | error f => exact ordinary_error (h f rfl)

theorem Ordinary.foldlM {ι : Type} {next : α → ι → Except Failure α}
    (h : ∀ a i, Ordinary (next a i)) (l : List ι) (a : α) : Ordinary (l.foldlM next a) := by
  induction l generalizing a with
  | nil => exact ordinary_ok a
  | cons i l ih =>
    rw [List.foldlM_cons]
    exact (h a i).bind ih

/-- What the system refuses is ordinary. -/
theorem system_isOrdinary (e : SystemError) (path : Text) :
    (Failure.system e path).kind.isOrdinary = true := by
  change (systemKind e.number).isOrdinary = true
  cases e <;> decide

/-! ## Parts that fail by themselves -/

theorem Path.refusal?_isOrdinary {path : Text} {f : Failure} (h : refusal? path = some f) :
    f.kind.isOrdinary = true := by
  unfold refusal? at h
  split at h
  · cases h
    rfl
  · split at h <;> cases h
    rfl

theorem Store.guarded_ordinary (path : Text) (operation : Except SystemError α) :
    Ordinary (guarded path operation) := by
  unfold guarded
  split
  · rename_i hrefused
    exact ordinary_error (Path.refusal?_isOrdinary hrefused)
  · cases operation with
    | ok a => exact ordinary_ok a
    | error e => exact ordinary_error (system_isOrdinary e path)

theorem Defaults.isBlank?_ordinary (v : Value) : Ordinary (isBlank? v) := by
  cases v with
  | null | text => exact ordinary_ok _
  | bool | int | float | list | tuple | dict => exact ordinary_error rfl

theorem Defaults.ifBlank?_ordinary (v default : Value) : Ordinary (ifBlank? v default) :=
  (isBlank?_ordinary v).bind fun _ => ordinary_ok _

theorem Form.elements?_ordinary (v : Value) : Ordinary (elements? v) := by
  cases v with
  | list | tuple | dict | text => exact ordinary_ok _
  | null | bool | int | float => exact ordinary_error rfl

theorem Form.attachmentList?_ordinary (v : Value) : Ordinary (attachmentList? v) := by
  unfold attachmentList?
  split
  · exact ordinary_ok _
  · exact (elements?_ordinary v).map _

/-- A payload that describes no form is refused in an ordinary way. -/
theorem Form.ofPayload?_ordinary (v : Value) : Ordinary (ofPayload? v) := by
  unfold ofPayload?
  split
  · unfold ofEntries?
    split
    · exact ordinary_ok _
    · exact (attachmentList?_ordinary _).bind fun _ => ordinary_ok _
  · split
    · exact ordinary_error rfl
    · exact ordinary_ok _
  · split
    · exact ordinary_error rfl
    · exact ordinary_ok _
  · split
    · exact ordinary_error rfl
    · exact ordinary_ok _
  · exact ordinary_error rfl

theorem Attachments.resolved?_ordinary {cwd : Except Failure Text} (hcwd : Ordinary cwd)
    (path : Text) : Ordinary (resolved? cwd path) := by
  unfold resolved?
  split
  · exact ordinary_ok _
  · cases cwd with
    | ok directory => exact ordinary_ok _
    | error f =>
      simp only
      split
      · exact ordinary_ok _
      · exact ordinary_error (hcwd f rfl)

theorem Attachments.keep?_ordinary {cwd : Except Failure Text} (hcwd : Ordinary cwd)
    (kept : List Text) (entry : Value) : Ordinary (keep? cwd kept entry) := by
  unfold keep?
  split
  · exact ordinary_ok _
  · split
    · exact ordinary_ok _
    · exact (resolved?_ordinary hcwd _).bind fun _ => ordinary_ok _
  · exact ordinary_error rfl

theorem Attachments.normalize?_ordinary {cwd : Except Failure Text} (hcwd : Ordinary cwd)
    (v : Value) : Ordinary (normalize? cwd v) := by
  unfold normalize?
  split
  · exact ordinary_error rfl
  · split
    · exact (Form.elements?_ordinary v).bind fun _ => Ordinary.foldlM (keep?_ordinary hcwd) _ _
    · exact ordinary_ok _

theorem Preparation.order?_ordinary (form : Form) (forcePreview template recipients : Value)
    (attachments : List Text) :
    Ordinary (order? form forcePreview template recipients attachments) :=
  (Defaults.ifBlank?_ordinary _ _).bind fun _ =>
    (Defaults.ifBlank?_ordinary _ _).bind fun _ => ordinary_ok _

/-- A search for engines is stopped by nothing but what an announcement fails with. -/
theorem Registry.surveyFrom_ordinary {entryPoints : List EntryPoint}
    (h : ∀ p ∈ entryPoints, ∀ f, p.loaded = .failure f → f.kind.isOrdinary = true)
    (catalogue : Catalogue) : Ordinary (surveyFrom catalogue entryPoints).found := by
  induction entryPoints generalizing catalogue with
  | nil => exact ordinary_ok _
  | cons p rest ih =>
    have hrest := ih fun q hq => h q (List.mem_cons_of_mem p hq)
    unfold surveyFrom
    cases hloaded : p.loaded with
    | engine e => exact hrest _
    | value v => exact hrest _
    | failure f =>
      simp only
      split
      · exact hrest _
      · exact ordinary_error (h p List.mem_cons_self f hloaded)

end CampaignDesk
