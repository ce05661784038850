import CampaignDesk.Proofs.Order.Completion

/-!
# What an order asks for

An engine does one of four jobs, and what an order holds tells which.

* `Order.Mode`, `Order.In`: the jobs, and the orders for each of them.
* `Order.WellPosed`: an order for exactly one job, in which every field with a default is filled.
* `wellPosed_of_prepare`, `wellPosed_listOrder`, `wellPosed_cancelOrder`, `wellPosed_schedulerOrder`:
  **every order that the service makes is well posed.**
-/

namespace CampaignDesk

namespace Order

/-- The jobs of an engine. -/
inductive Mode
  | campaign
  | listing
  | cancelling
  | scheduling
deriving DecidableEq

/-- The order of a form that was prepared. It names a mail server configuration and carries none of the
flags of the other jobs. -/
structure Campaigns (order : Order) : Prop where
  prepared : ∃ form forcePreview directory w files v,
    Preparation.prepare form forcePreview directory w = (.ok (order, files), v)
  listJobs : order.get .listJobs = .bool false
  cancelJobId : order.get .cancelJobId = .text []
  schedulerRun : order.get .schedulerRun = .bool false
  envPath : Defaults.isBlank? (order.get .envPath) = .ok false

/-- The orders for each job. -/
def In (order : Order) : Mode → Prop
  | .campaign => order.Campaigns
  | .listing => ∃ db, order = Dispatch.listOrder db
  | .cancelling => ∃ job db, Defaults.isBlank? job = .ok false ∧ order = Dispatch.cancelOrder job db
  | .scheduling => ∃ db, order = Dispatch.schedulerOrder db

/-- An order is for exactly one job; its texts with a default are not blank, and its numbers with a
default are neither absent nor zero. -/
structure WellPosed (order : Order) : Prop where
  mode : ∃ mode, ∀ m, order.In m ↔ m = mode
  jobBackoff : Defaults.isBlank? (order.get .jobBackoff) = .ok false
  schedulerDb : Defaults.isBlank? (order.get .schedulerDb) = .ok false
  number : ∀ {field source default}, field.number? = some (source, default) →
    (order.get field).isNull = false ∧ (order.get field).isZero = false

variable {order : Order} {m m' : Mode}

/-! ## One job at a time -/

/-- Whether jobs are listed. -/
def Mode.lists : Mode → Bool
  | .listing => true
  | _ => false

/-- Whether a job is cancelled. -/
def Mode.cancels : Mode → Bool
  | .cancelling => true
  | _ => false

/-- Whether the scheduler is run. -/
def Mode.schedules : Mode → Bool
  | .scheduling => true
  | _ => false

/-- A job is known by its flags. -/
theorem Mode.eq_of_flags (hlists : m.lists = m'.lists) (hcancels : (!m.cancels) = !m'.cancels)
    (hschedules : m.schedules = m'.schedules) : m = m' := by
  revert hlists hcancels hschedules
  cases m <;> cases m' <;> decide

/-- The flags of an order are those of its job. -/
theorem In.flags (h : order.In m) : order.get .listJobs = .bool m.lists ∧
    Defaults.isBlank? (order.get .cancelJobId) = .ok (!m.cancels) ∧
    order.get .schedulerRun = .bool m.schedules := by
  cases m with
  | campaign =>
    have hcampaign : order.Campaigns := h
    exact ⟨hcampaign.listJobs, by rw [hcampaign.cancelJobId]; rfl, hcampaign.schedulerRun⟩
  | listing =>
    obtain ⟨db, rfl⟩ := h
    exact ⟨rfl, rfl, rfl⟩
  | cancelling =>
    obtain ⟨job, db, hjob, rfl⟩ := h
    exact ⟨rfl, hjob, rfl⟩
  | scheduling =>
    obtain ⟨db, rfl⟩ := h
    exact ⟨rfl, rfl, rfl⟩

/-- **No order is for two jobs.** -/
theorem In.unique (h : order.In m) (h' : order.In m') : m = m' := by
  obtain ⟨hlists, hcancels, hschedules⟩ := h.flags
  obtain ⟨hlists', hcancels', hschedules'⟩ := h'.flags
  exact Mode.eq_of_flags (Value.bool.inj (hlists.symm.trans hlists'))
    (Except.ok.inj (hcancels.symm.trans hcancels'))
    (Value.bool.inj (hschedules.symm.trans hschedules'))

theorem In.exactly (h : order.In m) : ∃ mode, ∀ m', order.In m' ↔ m' = mode :=
  ⟨m, fun _ => ⟨fun h' => h'.unique h, fun heq => heq ▸ h⟩⟩

end Order

/-! ## Defaults leave nothing unset -/

/-- A text that is not blank, in two ways. -/
theorem Preparation.inline?_ne_none_iff {v : Value} :
    inline? v ≠ none ↔ Defaults.isBlank? v = .ok false := by
  refine ⟨fun h => ?_, fun h => ?_⟩
  · cases v with
    | text t =>
      by_cases hblank : t.isBlank = true
      · simp [inline?, hblank] at h
      · exact congrArg Except.ok (Bool.eq_false_iff.2 hblank)
    | _ => exact absurd rfl h
  · obtain ⟨content, -, hinline⟩ := inline?_of_not_isBlank h
    simp [hinline]

/-- Neither absent nor zero is what a default of that kind completes. -/
theorem Defaults.ifUnset_set {v default : Value} (hnull : default.isNull = false)
    (hzero : default.isZero = false) :
    (ifUnset v default).isNull = false ∧ (ifUnset v default).isZero = false := by
  unfold ifUnset
  split
  · exact ⟨hnull, hzero⟩
  · rename_i hset
    rw [Bool.or_eq_true, not_or, Bool.not_eq_true, Bool.not_eq_true] at hset
    exact hset

namespace Order

variable {form : Form} {forcePreview directory job db d : Value} {order : Order} {files : TempFiles}
  {w v : World}

/-- The number that an order holds unless told otherwise is neither absent nor zero. -/
theorem Field.number?_default {field : Field} {source : Form.Field} {default : Value}
    (h : field.number? = some (source, default)) :
    field.initial = default ∧ default.isNull = false ∧ default.isZero = false := by
  cases field <;> cases h <;> exact ⟨rfl, rfl, rfl⟩

/-- The order of a form that is prepared is one for a campaign. -/
theorem campaigns_of_prepare
    (h : Preparation.prepare form forcePreview directory w = (.ok (order, files), v)) :
    order.Campaigns := by
  obtain ⟨hnamed, _, _, _, hcompleted, -⟩ := Preparation.prepare_completed h
  refine ⟨⟨_, _, _, _, _, _, h⟩, hcompleted.listJobs, hcompleted.cancelJobId,
    hcompleted.schedulerRun, ?_⟩
  rw [hcompleted.kept rfl]
  exact Preparation.inline?_ne_none_iff.1 hnamed

/-- **The order of a form that is prepared is well posed.** -/
theorem wellPosed_of_prepare
    (h : Preparation.prepare form forcePreview directory w = (.ok (order, files), v)) :
    order.WellPosed := by
  have hmode : order.In .campaign := campaigns_of_prepare h
  obtain ⟨-, _, _, _, hcompleted, -⟩ := Preparation.prepare_completed h
  refine ⟨hmode.exactly, ?_, ?_, fun hfield => ?_⟩
  · exact Preparation.inline?_ne_none_iff.1
      (Preparation.ifBlank?_eq_ok (by decide) hcompleted.jobBackoff)
  · exact Preparation.inline?_ne_none_iff.1
      (Preparation.ifBlank?_eq_ok (by decide) hcompleted.schedulerDb)
  · obtain ⟨-, hnull, hzero⟩ := Field.number?_default hfield
    rw [hcompleted.number hfield]
    exact Defaults.ifUnset_set hnull hzero

/-- An order that differs from the plain one in a flag and in its database is well posed if it is for
some job and its database is not blank. -/
theorem wellPosed_of_plain {m : Mode} {flag : Field} {value : Value}
    (hnumber : flag.number? = none) (hflag : flag ≠ .jobBackoff)
    (hmode : ((plain.set flag value).set .schedulerDb d).In m)
    (hdb : Defaults.ifBlank? db Defaults.schedulerDb = .ok d) :
    ((plain.set flag value).set .schedulerDb d).WellPosed := by
  have hfilled : Defaults.isBlank? d = .ok false :=
    Preparation.inline?_ne_none_iff.1 (Preparation.ifBlank?_eq_ok (by decide) hdb)
  have hkept (field : Field) (hfield : field ≠ flag) (hfield' : field ≠ .schedulerDb) :
      ((plain.set flag value).set .schedulerDb d).get field = field.initial := by
    simp [set, plain, hfield, hfield']
  refine ⟨hmode.exactly, ?_, hfilled, fun {field source default} hfield => ?_⟩
  · rw [hkept _ hflag.symm nofun]
    rfl
  · obtain ⟨hinitial, hset⟩ := Field.number?_default hfield
    have hne : field ≠ flag := by
      rintro rfl
      rw [hnumber] at hfield
      cases hfield
    have hne' : field ≠ .schedulerDb := by
      rintro rfl
      cases hfield
    rw [hkept field hne hne', hinitial]
    exact hset

theorem wellPosed_listOrder (h : Defaults.ifBlank? db Defaults.schedulerDb = .ok d) :
    (Dispatch.listOrder d).WellPosed :=
  @wellPosed_of_plain db d .listing .listJobs _ rfl nofun ⟨d, rfl⟩ h

theorem wellPosed_cancelOrder (hjob : Defaults.isBlank? job = .ok false)
    (h : Defaults.ifBlank? db Defaults.schedulerDb = .ok d) : (Dispatch.cancelOrder job d).WellPosed :=
  @wellPosed_of_plain db d .cancelling .cancelJobId _ rfl nofun ⟨job, d, hjob, rfl⟩ h

theorem wellPosed_schedulerOrder (h : Defaults.ifBlank? db Defaults.schedulerDb = .ok d) :
    (Dispatch.schedulerOrder d).WellPosed :=
  @wellPosed_of_plain db d .scheduling .schedulerRun _ rfl nofun ⟨d, rfl⟩ h

end Order

end CampaignDesk
