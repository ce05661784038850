import CampaignDesk.Proofs.Act
import CampaignDesk.Proofs.Order.Preparation
import CampaignDesk.Proofs.Ordinary

/-!
# Requests to stop come from outside

No operation asks the program to stop by itself.

* `World.Mild`: no fault, no working directory and no announced engine asks to stop.
* `Act.Mild`: **from a mild world an operation fails with ordinary failures only, and leaves a mild
  world.** Every way of putting operations together keeps this.
* `Dispatch.perform_mild`, `Dispatch.listJobs_mild`, `Dispatch.cancelJob_mild`: an operation is as mild
  as the engine that it calls.
-/

namespace CampaignDesk

variable {α β : Type}

/-! ## Mild operations -/

/-- No fault, no working directory and no announced engine asks to stop. -/
structure World.Mild (w : World) : Prop where
  faults : ∀ f ∈ w.faults, f.failure.kind.isOrdinary = true
  cwd : Ordinary w.cwd
  entryPoints : ∀ p ∈ w.registry.entryPoints, ∀ f, p.loaded = .failure f →
    f.kind.isOrdinary = true

/-- From a mild world the operation fails with ordinary failures only, and leaves a mild world. -/
def Act.Mild (act : Act α) : Prop := ∀ w, w.Mild → (act w).2.Mild ∧ Ordinary (act w).1

namespace Act.Mild

theorem of_eq {act : Act α} (h : ∀ w, (act w).2 = w) (h' : ∀ w, Ordinary (act w).1) : Act.Mild act :=
  fun w hw => ⟨(h w).symm ▸ hw, h' w⟩

theorem pure (a : α) : Act.Mild (Pure.pure a : Act α) := of_eq (fun _ => rfl) fun _ => ordinary_ok a

theorem get : Act.Mild (MonadState.get : Act World) := of_eq (fun _ => rfl) fun w => ordinary_ok w

theorem throw {f : Failure} (hf : f.kind.isOrdinary = true) :
    Act.Mild (MonadExcept.throw f : Act α) := of_eq (fun _ => rfl) fun _ => ordinary_error hf

theorem settle {outcome : Except Failure α} (h : Ordinary outcome) : Act.Mild (Act.settle outcome) :=
  of_eq (fun _ => rfl) fun _ => h

/-- What never fails and leaves alone what failures may come from. -/
theorem of_modify {g : World → World} (h : ∀ w, (g w).faults = w.faults ∧ (g w).cwd = w.cwd ∧
    (g w).registry.entryPoints = w.registry.entryPoints) :
    Act.Mild (modify g : Act PUnit) := by
  intro w hw
  obtain ⟨hfaults, hcwd, hentries⟩ := h w
  refine ⟨⟨?_, ?_, ?_⟩, ordinary_ok _⟩
  · exact hfaults ▸ hw.faults
  · exact hcwd ▸ hw.cwd
  · exact hentries ▸ hw.entryPoints

theorem note (r : Record) : Act.Mild (Act.note r) :=
  fun _ hw => ⟨⟨hw.faults, hw.cwd, hw.entryPoints⟩, ordinary_ok _⟩

theorem attempt {act : Act α} (h : Act.Mild act) : Act.Mild (Act.attempt act) :=
  fun w hw => ⟨(h w hw).1, ordinary_ok _⟩

theorem bind {act : Act α} {next : α → Act β} (h : Act.Mild act) (h' : ∀ a, Act.Mild (next a)) :
    Act.Mild (act >>= next) := by
  intro w hw
  obtain ⟨hv, hordinary⟩ := h w hw
  rw [bind_apply]
  rcases hact : act w with ⟨f | a, v⟩ <;> rw [hact] at hv hordinary
  · exact ⟨hv, ordinary_error (hordinary f rfl)⟩
  · exact h' a v hv

/-- What failed is known to be ordinary where it is looked at. -/
theorem attempt_bind {act : Act α} {next : Except Failure α → Act β} (h : Act.Mild act)
    (h' : ∀ outcome, Ordinary outcome → Act.Mild (next outcome)) :
    Act.Mild (Act.attempt act >>= next) := by
  intro w hw
  obtain ⟨hv, hordinary⟩ := h w hw
  rw [bind_ok (attempt_apply act w)]
  exact h' _ hordinary _ hv

/-- Nothing comes after a failure. -/
theorem throw_bind {f : Failure} (hf : f.kind.isOrdinary = true) (next : α → Act β) :
    Act.Mild (MonadExcept.throw f >>= next) := by
  intro w hw
  rw [bind_error (throw_apply f w)]
  exact ⟨hw, ordinary_error hf⟩

theorem forM {ι : Type} {act : ι → Act PUnit} (h : ∀ i, Act.Mild (act i)) (l : List ι) :
    Act.Mild (l.forM act) := by
  induction l with
  | nil => exact pure _
  | cons i l ih => exact (h i).bind fun _ => ih

/-- What comes next may count on a mild world. -/
theorem get_bind {next : World → Act α}
    (h : ∀ w, w.Mild → (next w w).2.Mild ∧ Ordinary (next w w).1) :
    Act.Mild (MonadState.get >>= next) := h

/-- An operation that is mild, and another that is, whatever failed in the first. -/
theorem ensure {act : Act α} {afterwards : Act Unit} (h : Act.Mild act)
    (h' : Act.Mild afterwards) : Act.Mild (Act.ensure act afterwards) := by
  intro w hw
  obtain ⟨hv, hordinary⟩ := h w hw
  obtain ⟨hu, hordinary'⟩ := h' _ hv
  rw [ensure_apply]
  rcases hafter : afterwards (act w).2 with ⟨f | _, u⟩ <;> rw [hafter] at hu hordinary'
  · exact ⟨hu, ordinary_error (hordinary' f rfl)⟩
  · exact ⟨hu, hordinary⟩

end Act.Mild

open Act

/-! ## Temporary files -/

namespace TempCall

theorem enter_mild (call : TempCall) : Act.Mild (enter call) := by
  intro w hw
  unfold enter
  simp only
  split
  · rename_i f hf
    exact ⟨⟨hw.faults, hw.cwd, hw.entryPoints⟩,
      ordinary_error (hw.faults f (List.mem_of_find?_eq_some hf))⟩
  · exact ⟨⟨hw.faults, hw.cwd, hw.entryPoints⟩, ordinary_ok _⟩

theorem path?_ordinary (system : Text) (directory : Value) (stem suffix : Text) (number : Nat) :
    Ordinary (path? system directory stem suffix number) := by
  cases directory with
  | null | text => exact ordinary_ok _
  | bool | int | float | list | tuple | dict => exact ordinary_error rfl

theorem createFile_mild (directory : Value) (stem suffix : Text) :
    Act.Mild (createFile directory stem suffix) := by
  refine (enter_mild .create).bind fun _ => Mild.get_bind fun w hw => ?_
  refine Mild.bind (Mild.settle (path?_ordinary _ _ _ _ _)) (fun path => ?_) w hw
  refine (Mild.settle (Store.guarded_ordinary _ _)).bind fun made => ?_
  refine Mild.bind (fun v _ => ?_) fun _ => Mild.pure _
  exact ⟨⟨hw.faults, hw.cwd, hw.entryPoints⟩, ordinary_ok _⟩

theorem fillFile_mild (l : Location) (content : Text) : Act.Mild (fillFile l content) := by
  refine (enter_mild .open).bind fun _ => ?_
  cases Utf8.encode? content with
  | error fault => exact Mild.throw rfl
  | ok bytes => exact Mild.of_modify fun _ => ⟨rfl, rfl, rfl⟩

theorem removeFile_mild (path : Text) : Act.Mild (removeFile path) := by
  refine (enter_mild .remove).bind fun _ => Mild.get_bind fun w hw => ?_
  refine Mild.bind (Mild.settle (Store.guarded_ordinary _ _)) (fun store => fun v _ => ?_) w hw
  exact ⟨⟨hw.faults, hw.cwd, hw.entryPoints⟩, ordinary_ok _⟩

end TempCall

namespace Drafting

/-- From a mild world the operation fails with ordinary failures only, and leaves a mild world,
whatever set of files it works on. -/
def Mild (d : Drafting α) : Prop :=
  ∀ t w, w.Mild → (d t w).2.Mild ∧ Ordinary (d t w).1.1

namespace Mild

theorem lift {act : Act α} (h : Act.Mild act) : Mild (Drafting.lift act) := fun _ w hw => h w hw

theorem pure (a : α) : Mild (Pure.pure a : Drafting α) := fun _ _ hw => ⟨hw, ordinary_ok a⟩

theorem throw {f : Failure} (hf : f.kind.isOrdinary = true) :
    Mild (MonadExcept.throw f : Drafting α) := fun _ _ hw => ⟨hw, ordinary_error hf⟩

theorem get : Mild (MonadState.get : Drafting TempFiles) := fun _ _ hw => ⟨hw, ordinary_ok _⟩

theorem set (t : TempFiles) : Mild (MonadStateOf.set t : Drafting PUnit) :=
  fun _ _ hw => ⟨hw, ordinary_ok _⟩

theorem add (path : Text) : Mild (Drafting.add path) := fun _ _ hw => ⟨hw, ordinary_ok _⟩

theorem bind {d : Drafting α} {next : α → Drafting β} (h : Mild d) (h' : ∀ a, Mild (next a)) :
    Mild (d >>= next) := by
  intro t w hw
  obtain ⟨hv, hordinary⟩ := h t w hw
  rw [bind_apply]
  rcases hd : d t w with ⟨⟨f | a, t'⟩, v⟩ <;> rw [hd] at hv hordinary
  · exact ⟨hv, ordinary_error (hordinary f rfl)⟩
  · exact h' a t' v hv

theorem throw_bind {f : Failure} (hf : f.kind.isOrdinary = true) (next : α → Drafting β) :
    Mild (MonadExcept.throw f >>= next) := by
  intro t w hw
  rw [bind_apply, throw_apply]
  exact ⟨hw, ordinary_error hf⟩

/-- What failed is known to be ordinary where it is looked at. -/
theorem attempt_bind {act : Act α} {next : Except Failure α → Drafting β} (h : Act.Mild act)
    (h' : ∀ outcome, Ordinary outcome → Mild (next outcome)) :
    Mild (Drafting.lift (Act.attempt act) >>= next) := by
  intro t w hw
  obtain ⟨hv, hordinary⟩ := h w hw
  rw [bind_apply, lift_apply, attempt_apply]
  exact h' _ hordinary t _ hv

end Mild

theorem write_mild (content suffix label : Text) : Mild (write content suffix label) := by
  refine Mild.get.bind fun t => Mild.attempt_bind (TempCall.createFile_mild _ _ _) fun made hmade => ?_
  cases made with
  | error f =>
    refine Mild.throw_bind ?_ _
    split
    · rfl
    · exact hmade f rfl
  | ok made =>
    refine (Mild.pure made).bind fun (path, l) => (Mild.add path).bind fun _ => ?_
    refine Mild.attempt_bind (TempCall.fillFile_mild l content) fun filled hfilled => ?_
    cases filled with
    | error f =>
      refine Mild.throw_bind ?_ _
      split
      · rfl
      · exact hfilled f rfl
    | ok _ => exact (Mild.lift (Act.Mild.note _)).bind fun _ => Mild.pure _

theorem removeAll_mild (paths : List Text) : Act.Mild (removeAll paths) := by
  induction paths with
  | nil => exact Act.Mild.pure _
  | cons path rest ih =>
    refine Act.Mild.attempt_bind (TempCall.removeFile_mild path) fun removed hremoved => ?_
    cases removed with
    | ok _ => exact ih
    | error f =>
      dsimp only
      split
      · exact (Act.Mild.note _).bind fun _ => ih
      · exact Act.Mild.throw_bind (hremoved f rfl) _

theorem release_mild : Mild release := by
  refine Mild.get.bind fun t => ?_
  split
  · exact Mild.pure _
  · exact (Mild.set _).bind fun _ => Mild.lift (removeAll_mild _)

end Drafting

theorem TempFiles.release_mild (t : TempFiles) : Act.Mild t.release := by
  intro w hw
  obtain ⟨hv, hordinary⟩ := Drafting.release_mild t w hw
  exact ⟨hv, hordinary⟩

/-! ## Orders -/

namespace Preparation

theorem checkServerConfig_mild (path : Value) : Act.Mild (checkServerConfig path) := by
  refine (Act.Mild.settle (Defaults.isBlank?_ordinary path)).bind fun blank => ?_
  cases blank with
  | true =>
    have hmissing : (Failure.new .serverConfigMissing "SMTP config path is required").kind.isOrdinary =
        true := rfl
    exact Act.Mild.throw_bind hmissing _
  | false =>
    dsimp only
    cases path with
    | text p =>
      refine Act.Mild.get.bind fun w => ?_
      cases w.store.exists p with
      | true => exact .pure _
      | false => exact Act.Mild.throw rfl
    | null | bool | int | float | list | tuple | dict => exact .pure _

theorem attachments_mild (v : Value) : Act.Mild (attachments v) :=
  Act.Mild.get_bind fun _ hw => ⟨hw, Attachments.normalize?_ordinary hw.cwd v⟩

theorem mild_closed : Drafting.Closed Drafting.Mild where
  pure := .pure
  bind := .bind
  settle houtcome := .lift (.settle houtcome)
  write content label _ _ := Drafting.write_mild content _ label

theorem prepare_mild (form : Form) (forcePreview directory : Value) :
    Act.Mild (prepare form forcePreview directory) := by
  refine (checkServerConfig_mild _).bind fun _ => (attachments_mild _).bind fun paths => ?_
  intro w hw
  obtain ⟨hv, hordinary⟩ := mild_closed.draft form forcePreview paths
    (TempFiles.none directory TempFiles.defaultStem) w hw
  simp only [TempFiles.run, Act.bind_apply]
  rcases hd : draft form forcePreview paths (TempFiles.none directory TempFiles.defaultStem) w with
    ⟨⟨f | order, files⟩, v⟩ <;> rw [hd] at hv hordinary
  · exact ((TempFiles.release_mild files).bind fun _ => .throw (hordinary f rfl)) v hv
  · exact ((Act.Mild.note _).bind fun _ => .pure _) v hv

end Preparation

/-! ## Engines -/

namespace Engine

theorem discover_mild : Act.Mild discover :=
  Act.Mild.get_bind fun w hw =>
    ((Act.Mild.forM (fun _ => .note _) _).bind fun _ => .settle (Registry.surveyFrom_ordinary
      (fun p hp => hw.entryPoints p (List.mem_filter.1 hp).1) _)) w hw

theorem register_mild (engine : Option EngineRef) : Act.Mild (register engine) :=
  .of_modify fun _ => ⟨rfl, rfl, rfl⟩

theorem inUse_mild : Act.Mild inUse := by
  refine Act.Mild.get.bind fun w => ?_
  split
  · exact .pure _
  · refine discover_mild.bind fun catalogue => ?_
    split
    · exact (Act.Mild.note _).bind fun _ => (register_mild _).bind fun _ => .pure _
    · exact (register_mild _).bind fun _ => .pure _

end Engine

namespace Dispatch

theorem engine_mild : Act.Mild engine := by
  refine Act.Mild.get.bind fun w => ?_
  split
  · exact .pure _
  · exact Engine.inUse_mild

/-- A failure that is passed on is ordinary if it was. -/
theorem passedOn_isOrdinary {f : Failure} (hf : f.kind.isOrdinary = true) :
    (passedOn f).kind.isOrdinary = true := by
  unfold passedOn
  split
  · exact hf
  · rfl

theorem logFailed_mild (operation : String) (f : Failure) : Act.Mild (logFailed operation f) := by
  unfold logFailed
  split
  · exact .note _
  · split
    · exact .note _
    · exact .pure _

variable {call : Call} (hcall : ∀ e order, Act.Mild (call e order))

include hcall

theorem callEngine_mild (operation : String) (order : Order) :
    Act.Mild (callEngine call operation order) := by
  refine (Act.Mild.note _).bind fun _ => Act.Mild.attempt_bind
    (engine_mild.bind fun e => hcall e order) fun returned hreturned => ?_
  cases returned with
  | ok returned => exact (Act.Mild.note _).bind fun _ => .pure _
  | error f =>
    exact (logFailed_mild operation f).bind fun _ =>
      .throw (passedOn_isOrdinary (hreturned f rfl))

theorem perform_mild (operation : Campaign) (form : Form) :
    Act.Mild (perform call operation form) :=
  Act.Mild.get.bind fun _ => (Preparation.prepare_mild _ _ _).bind fun p =>
    Act.Mild.ensure ((callEngine_mild hcall _ p.1).bind fun _ => .pure _) (p.2.release_mild)

theorem listJobs_mild (db : Value) : Act.Mild (listJobs call db) :=
  (Act.Mild.settle (Defaults.ifBlank?_ordinary _ _)).bind fun _ =>
    (callEngine_mild hcall _ _).bind fun _ => .pure _

theorem cancelJob_mild (job db : Value) : Act.Mild (cancelJob call job db) := by
  refine (Act.Mild.settle (Defaults.isBlank?_ordinary _)).bind fun blank => ?_
  split
  · exact Act.Mild.throw_bind (by rfl) _
  · exact (Act.Mild.settle (Defaults.ifBlank?_ordinary _ _)).bind fun _ =>
      (callEngine_mild hcall _ _).bind fun _ => .pure _

end Dispatch

end CampaignDesk
