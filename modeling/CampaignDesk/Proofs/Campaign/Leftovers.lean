import CampaignDesk.Proofs.Dispatch.Blind
import CampaignDesk.Proofs.Dispatch.Leaving
import CampaignDesk.Proofs.Sample

/-!
# Files that cannot be removed

An operation on a form is an undertaking on a set of temporary files, after which the set is released.
The undertaking does not notice faults that are set for removals, since it removes nothing. So two runs,
one of them with such faults, are the same up to the release, and the release hides them.

* `Preparation.drafting`, `undertaking`: everything before the release, on a set of temporary files;
  `perform_eq`: **an operation is its undertaking with a release after it**, whatever stage fails.
* `Drafting.Blind`: operations on temporary files that do not notice a change of the world.
  `undertaking_blind`: an undertaking does not notice faults for removals.
* `World.Leaves`: a file all of whose removals are refused.
* `cleanup_failures_are_invisible`: the two runs compared.
-/

namespace CampaignDesk

open Store World Act

/-! ## An operation and its release -/

namespace Preparation

/-- The stages up to the order, on a set of temporary files. -/
def drafting (form : Form) (forcePreview : Value) : Drafting Order := do
  Drafting.lift (checkServerConfig (form.get .envPath))
  let paths ← Drafting.lift (attachments (form.get .attachments))
  draft form forcePreview paths

/-- What is logged of a set of files that an order refers to. -/
def prepared (files : TempFiles) : Act Unit :=
  Act.log .debug logger
    (("Normalized request (" : Text) ++ Text.ofNat files.paths.length ++ (" temp artifacts)" : Text))

theorem release_none (directory : Value) (stem : Text) (w : World) :
    (TempFiles.none directory stem).release w = (.ok (), w) := rfl

/-- The stages up to the order fail before there is a draft, or they are the draft. -/
theorem drafting_cases (form : Form) (forcePreview : Value) (t : TempFiles) (w : World) :
    (∃ f, drafting form forcePreview t w = ((.error f, t), w) ∧
      ∀ directory, prepare form forcePreview directory w = (.error f, w)) ∨
    ∃ paths, drafting form forcePreview t w = draft form forcePreview paths t w ∧
      ∀ directory, prepare form forcePreview directory w =
        ((TempFiles.none directory TempFiles.defaultStem).run (draft form forcePreview paths) >>=
          fun (outcome, files) => match outcome with
            | .error f => files.release >>= fun _ => throw f
            | .ok order => prepared files >>= fun _ => pure (order, files)) w := by
  have hchecked := checkServerConfig_apply (form.get .envPath) w
  rcases hc : checkServerConfig (form.get .envPath) w with ⟨f | _, u⟩ <;> rw [hc] at hchecked <;>
    subst hchecked
  · exact .inl ⟨f, Drafting.bind_error (Drafting.lift_eq hc), fun _ => bind_error hc⟩
  have hattached := attachments_apply (form.get .attachments) u
  rcases ha : attachments (form.get .attachments) u with ⟨f | paths, v⟩ <;> rw [ha] at hattached <;>
    subst hattached
  · refine .inl ⟨f, ?_, fun _ => ?_⟩
    · rw [drafting, Drafting.bind_ok (Drafting.lift_eq hc)]
      exact Drafting.bind_error (Drafting.lift_eq ha)
    · rw [prepare, bind_ok hc]
      exact bind_error ha
  · refine .inr ⟨paths, ?_, fun _ => ?_⟩
    · rw [drafting, Drafting.bind_ok (Drafting.lift_eq hc)]
      exact Drafting.bind_ok (Drafting.lift_eq ha)
    · rw [prepare, bind_ok hc, bind_ok ha]
      rfl

/-- **A preparation that fails releases what it drafted**; before the draft that is nothing. -/
theorem prepare_eq (form : Form) (forcePreview directory : Value) (w : World) :
    prepare form forcePreview directory w =
      match drafting form forcePreview (TempFiles.none directory TempFiles.defaultStem) w with
      | ((.error f, files), v) => Act.ensure (throw f) files.release v
      | ((.ok order, files), v) => (.ok (order, files), (prepared files v).2) := by
  rcases drafting_cases form forcePreview (TempFiles.none directory TempFiles.defaultStem) w with
    ⟨f, hdrafting, hprepare⟩ | ⟨paths, hdrafting, hprepare⟩ <;> rw [hdrafting, hprepare]
  · simp only [ensure_apply, throw_apply, release_none]
  simp only [TempFiles.run, Act.bind_apply]
  rcases draft form forcePreview paths (TempFiles.none directory TempFiles.defaultStem) w with
    ⟨⟨f | order, files⟩, v⟩
  · simp only [ensure_apply, throw_apply, Act.bind_apply]
    rcases files.release v with ⟨e | _, u⟩ <;> rfl
  · rfl

/-- The files of a draft are fresh. -/
theorem drafting_files (form : Form) (forcePreview directory : Value) (w : World) :
    Drafting.Drafted w
      (drafting form forcePreview (TempFiles.none directory TempFiles.defaultStem) w).1.2
      (drafting form forcePreview (TempFiles.none directory TempFiles.defaultStem) w).2 := by
  rcases drafting_cases form forcePreview (TempFiles.none directory TempFiles.defaultStem) w with
    ⟨f, hdrafting, -⟩ | ⟨paths, hdrafting, -⟩ <;> rw [hdrafting]
  · exact .none w directory
  · exact drafts_closed.draft form forcePreview paths (.none w directory)

end Preparation

namespace Dispatch

/-- Everything that an operation on a form does before it releases its files. -/
def undertaking (call : Call) (operation : Campaign) (form : Form) : Drafting Unit := do
  let order ← Preparation.drafting form (.bool (operation = .preview))
  let files ← get
  Drafting.lift (Preparation.prepared files)
  let _ ← Drafting.lift (callEngine call (operationName operation) order)

/-- An undertaking is its draft and then, if there is an order, the engine call. -/
theorem undertaking_apply (call : Call) (operation : Campaign) (form : Form) (t : TempFiles)
    (w : World) :
    undertaking call operation form t w =
      match Preparation.drafting form (.bool (operation = .preview)) t w with
      | ((.error f, files), v) => ((.error f, files), v)
      | ((.ok order, files), v) =>
        let called := callEngine call (operationName operation) order (Preparation.prepared files v).2
        ((called.1.map fun _ => (), files), called.2) := by
  rcases hd : Preparation.drafting form (.bool (operation = .preview)) t w with
    ⟨⟨f | order, files⟩, v⟩
  · exact Drafting.bind_error hd
  have hlogged : Preparation.prepared files v = (.ok (), (Preparation.prepared files v).2) := rfl
  rw [undertaking, Drafting.bind_ok hd, Drafting.bind_ok (Drafting.get_apply files v),
    Drafting.bind_ok (Drafting.lift_eq hlogged), Drafting.bind_apply, Drafting.lift_apply]
  simp only
  rcases callEngine call (operationName operation) order (Preparation.prepared files v).2 with
    ⟨f | returned, u⟩ <;> rfl

/-- **An operation is its undertaking with a release after it**, at whichever stage that ends. -/
theorem perform_eq (call : Call) (operation : Campaign) (form : Form) (w : World) :
    perform call operation form w =
      match undertaking call operation form
        (TempFiles.none w.service.tempDir TempFiles.defaultStem) w with
      | ((outcome, files), v) => Act.ensure (settle outcome) files.release v := by
  rw [perform, Act.bind_apply, Act.get_apply]
  simp only [Act.bind_apply, Preparation.prepare_eq, undertaking_apply]
  rcases Preparation.drafting form (.bool (operation = .preview))
    (TempFiles.none w.service.tempDir TempFiles.defaultStem) w with ⟨⟨f | order, files⟩, v⟩
  · simp only [ensure_apply, throw_apply, settle_apply]
    rcases files.release v with ⟨e | _, u⟩ <;> rfl
  simp only [ensure_apply, settle_apply, Act.bind_apply]
  rcases callEngine call (operationName operation) order (Preparation.prepared files v).2 with
    ⟨f | returned, u⟩ <;> rfl

/-- The moment of the engine call, seen in the undertaking. -/
theorem entered?_eq (operation : Campaign) (form : Form) (w : World) :
    entered? operation form w =
      match Preparation.drafting form (.bool (operation = .preview))
        (TempFiles.none w.service.tempDir TempFiles.defaultStem) w with
      | ((.error _, _), _) => none
      | ((.ok order, files), v) =>
        match announce (operationName operation) (Preparation.prepared files v).2 with
        | (.ok e, u) => some ⟨e, order, files, u⟩
        | (.error _, _) => none := by
  unfold entered?
  rw [Preparation.prepare_eq]
  rcases Preparation.drafting form (.bool (operation = .preview))
    (TempFiles.none w.service.tempDir TempFiles.defaultStem) w with ⟨⟨f | order, files⟩, v⟩
  · simp only [ensure_apply, throw_apply]
    rcases files.release v with ⟨e | _, u⟩ <;> rfl
  · rfl

/-- The files of an undertaking are fresh, whatever the engine does. -/
theorem undertaking_files (call : Call) (operation : Campaign) (form : Form) (directory : Value)
    (w : World) : ∃ v, Drafting.Drafted w
      (undertaking call operation form (TempFiles.none directory TempFiles.defaultStem) w).1.2 v := by
  have hdrafted := Preparation.drafting_files form (.bool (operation = .preview)) directory w
  rw [undertaking_apply]
  rcases hd : Preparation.drafting form (.bool (operation = .preview))
    (TempFiles.none directory TempFiles.defaultStem) w with ⟨⟨f | order, files⟩, v⟩ <;>
    rw [hd] at hdrafted
  · exact ⟨v, hdrafted⟩
  · exact ⟨v, hdrafted⟩

end Dispatch

/-! ## Faults that are not noticed -/

/-- An operation on temporary files that does not notice a change of the world. -/
def Drafting.Blind {α : Type} (g : World → World) (d : Drafting α) : Prop :=
  ∀ t w, d t (g w) = ((d t w).1, g (d t w).2)

namespace Drafting.Blind

variable {α β : Type} {g : World → World}

theorem pure (a : α) : Blind g (Pure.pure a : Drafting α) := fun _ _ => rfl

theorem get : Blind g (MonadState.get : Drafting TempFiles) := fun _ _ => rfl

theorem lift {act : Act α} (h : Act.Blind g act) : Blind g (Drafting.lift act) := by
  intro t w
  rw [lift_apply, lift_apply, h w]

theorem bind {d : Drafting α} {next : α → Drafting β} (h : Blind g d)
    (h' : ∀ a, Blind g (next a)) : Blind g (d >>= next) := by
  intro t w
  rw [bind_apply, bind_apply, h t w]
  rcases d t w with ⟨⟨f | a, t'⟩, v⟩
  · rfl
  · exact h' a t' v

/-- Writing is making a file, filling it and a log record. -/
theorem write (hnote : ∀ r, Act.Blind g (Act.note r))
    (hcreate : ∀ directory stem suffix, Act.Blind g (TempCall.createFile directory stem suffix))
    (hfill : ∀ l content, Act.Blind g (TempCall.fillFile l content)) (content suffix label : Text) :
    Blind g (Drafting.write content suffix label) := by
  intro t w
  unfold Drafting.write
  simp only [bind_apply, get_apply, lift_apply, attempt_apply, hcreate t.directory t.stem suffix w]
  rcases TempCall.createFile t.directory t.stem suffix w with ⟨f | ⟨path, l⟩, v⟩
  · rfl
  simp only [bind_apply, pure_apply, add_apply, lift_apply, attempt_apply, hfill l content v]
  rcases TempCall.fillFile l content v with ⟨f | _, u⟩
  · rfl
  · have hlogged := hnote
      ⟨.debug, Text.ofString logger, ("Wrote temp " : Text) ++ label ++ (": " : Text) ++ path, none,
        none⟩ u
    simp only [bind_apply, pure_apply, lift_apply, Act.log, hlogged]
    rfl

end Drafting.Blind

namespace World

variable {refused : List TempFault}

/-- The world with some more faults. -/
def refusing (w : World) (refused : List TempFault) : World :=
  { w with faults := w.faults ++ refused }

/-- Calls for which no more faults are set run into the same ones as before. -/
theorem enter_blind (hrefused : ∀ f ∈ refused, f.call = .remove) {call : TempCall}
    (hcall : call ≠ .remove) : Act.Blind (·.refusing refused) (TempCall.enter call) := by
  intro w
  have hnone : (refused.find? fun f => f.call = call && f.index = w.counts call + 1) = none := by
    refine List.find?_eq_none.2 fun f hf => ?_
    rw [hrefused f hf]
    simp [Ne.symm hcall]
  have hfault : (w.refusing refused).fault? call = w.fault? call := by
    have happend : (w.faults ++ refused).find? (fun f => f.call = call && f.index = w.counts call + 1) =
        w.faults.find? fun f => f.call = call && f.index = w.counts call + 1 := by
      rw [List.find?_append, hnone, Option.or_none]
    exact congrArg (Option.map _) happend
  rw [TempCall.enter_apply, TempCall.enter_apply, hfault]
  rfl

theorem createFile_blind (hrefused : ∀ f ∈ refused, f.call = .remove) (directory : Value)
    (stem suffix : Text) :
    Act.Blind (·.refusing refused) (TempCall.createFile directory stem suffix) := by
  refine (enter_blind hrefused (by decide)).bind fun _ => ?_
  intro w
  simp only [bind_apply, get_apply, settle_apply, refusing]
  rcases TempCall.path? w.systemTemp directory stem suffix (w.counts .create) with f | path
  · rfl
  simp only
  rcases w.store.create? path with f | ⟨store, l⟩ <;> rfl

theorem fillFile_blind (hrefused : ∀ f ∈ refused, f.call = .remove) (l : Location)
    (content : Text) : Act.Blind (·.refusing refused) (TempCall.fillFile l content) := by
  refine (enter_blind hrefused (by decide)).bind fun _ => ?_
  rcases Utf8.encode? content with fault | bytes
  · exact .throw _
  · exact fun _ => rfl

theorem refusing_unnoticed (refused : List TempFault) :
    Dispatch.Unnoticed (·.refusing refused) where
  note _ _ := rfl
  register _ _ := rfl
  registry _ := rfl
  service _ := rfl

/-- Every draft is blind to faults for removals. -/
theorem drafts_blind (hrefused : ∀ f ∈ refused, f.call = .remove) :
    Drafting.Closed (Drafting.Blind (·.refusing refused)) where
  pure := .pure
  bind := .bind
  settle _ := .lift (.settle _)
  write content label _ _ :=
    .write (refusing_unnoticed refused).note (createFile_blind hrefused) (fillFile_blind hrefused)
      content _ label

end World

namespace Preparation

/-- A draft is made from the files, the directory seen from and the faults for making files only. -/
theorem drafting_blind {refused : List TempFault} (hrefused : ∀ f ∈ refused, f.call = .remove)
    (form : Form) (forcePreview : Value) :
    Drafting.Blind (·.refusing refused) (drafting form forcePreview) := by
  have hcheck : Act.Blind (·.refusing refused) (checkServerConfig (form.get .envPath)) := by
    intro w
    have hstore : (w.refusing refused).store = w.store := rfl
    refine Prod.ext ?_ ((checkServerConfig_apply _ _).trans
      (congrArg (·.refusing refused) (checkServerConfig_apply _ w).symm))
    simp only [checkServerConfig, Act.bind_apply, settle_apply]
    rcases Defaults.isBlank? (form.get .envPath) with f | _ | _
    · rfl
    · cases form.get .envPath with
      | text p => cases h : w.store.exists p <;> simp [Act.bind_apply, hstore, h]
      | _ => rfl
    · rfl
  have hattach : Act.Blind (·.refusing refused) (attachments (form.get .attachments)) :=
    .reads (fun _ => rfl) fun _ => .settle _
  exact (Drafting.Blind.lift hcheck).bind fun _ => (Drafting.Blind.lift hattach).bind fun paths =>
    (World.drafts_blind hrefused).draft form forcePreview paths

end Preparation

namespace Dispatch

variable {refused : List TempFault}

/-- **An undertaking does not notice faults for removals**, as far as the engine does not. -/
theorem undertaking_blind (hrefused : ∀ f ∈ refused, f.call = .remove) {call : Call}
    (hcall : ∀ e order, Act.Blind (·.refusing refused) (call e order)) (operation : Campaign)
    (form : Form) : Drafting.Blind (·.refusing refused) (undertaking call operation form) := by
  have hun := World.refusing_unnoticed refused
  refine (Preparation.drafting_blind hrefused form _).bind fun order => ?_
  refine Drafting.Blind.get.bind fun files => ?_
  refine (Drafting.Blind.lift (hun.note _)).bind fun _ => ?_
  exact (Drafting.Blind.lift (hun.callEngine (fun e => hcall e order) _)).bind fun _ => .pure _

/-- An undertaking sets no faults, as far as the engine sets none. -/
theorem undertaking_faults {call : Call}
    (hcall : ∀ e order, Act.Within (fun w v => v.faults = w.faults) (call e order))
    (operation : Campaign) (form : Form) (t : TempFiles) (w : World) :
    (undertaking call operation form t w).2.faults = w.faults := by
  let R : World → World → Prop := fun w v => v.faults = w.faults
  have : Std.Refl R := ⟨fun _ => rfl⟩
  have : Trans R R R := ⟨fun h h' => Eq.trans h' h⟩
  have hfiles : Housekeeping R := .of_files (fun _ _ _ _ => rfl) fun _ _ _ => rfl
  have hincidental : Incidental R := .of_note (fun _ _ => rfl) fun _ _ => rfl
  have hdrafting : Drafting.Along R (Preparation.drafting form (.bool (operation = .preview))) :=
    (Drafting.Along.lift (.of_eq (Preparation.checkServerConfig_apply _))).bind fun _ =>
      (Drafting.Along.lift (.of_eq (Preparation.attachments_apply _))).bind fun paths =>
        hfiles.closed.draft form _ paths
  have hall : Drafting.Along R (undertaking call operation form) := by
    refine hdrafting.bind fun order => ?_
    refine Drafting.Along.bind (d := get) (fun _ _ => rfl) fun files => ?_
    refine (Drafting.Along.lift (hfiles.remark _ rfl)).bind fun _ => ?_
    exact (Drafting.Along.lift (hincidental.callEngine (fun e => hcall e order) _)).bind
      fun _ => .pure _
  exact hall t w

/-- The moment of an engine call in a world with some more faults. -/
def Entered.refusing (x : Entered) (refused : List TempFault) : Entered :=
  { x with world := x.world.refusing refused }

/-- The engine is called at the same moment, with the same order and the same files. -/
theorem entered?_refusing (hrefused : ∀ f ∈ refused, f.call = .remove) (operation : Campaign)
    (form : Form) (w : World) :
    entered? operation form (w.refusing refused) =
      (entered? operation form w).map (·.refusing refused) := by
  have hdrafting := Preparation.drafting_blind hrefused form (.bool (operation = .preview))
    (TempFiles.none w.service.tempDir TempFiles.defaultStem) w
  have hservice : (w.refusing refused).service = w.service := rfl
  rw [entered?_eq, entered?_eq, hservice, hdrafting]
  rcases Preparation.drafting form (.bool (operation = .preview))
    (TempFiles.none w.service.tempDir TempFiles.defaultStem) w with ⟨⟨f | order, files⟩, v⟩
  · rfl
  have hlogged : (Preparation.prepared files (v.refusing refused)).2 =
      (Preparation.prepared files v).2.refusing refused := rfl
  have hannounce := (World.refusing_unnoticed refused).announce (operationName operation)
    (Preparation.prepared files v).2
  simp only [hlogged, hannounce]
  rcases announce (operationName operation) (Preparation.prepared files v).2 with ⟨f | e, u⟩ <;> rfl

/-- Calls of an engine that goes by its order and the files there are, and changes files at most. -/
def ofFiles (engine : EngineRef → Order → Store → Except Failure Value × Store) : Call :=
  fun e order w =>
    ((engine e order w.store).1, { w with store := (engine e order w.store).2 })

end Dispatch

/-! ## What is left -/

namespace World

variable {refused : List TempFault} {paths : List Text} {v smooth rough : World}

/-- Releasing some paths leaves the file at `l`: a path names it, and whenever the turn of such a path
comes a fault is set. -/
def Leaves (w : World) (paths : List Text) (l : Location) : Prop :=
  (∃ content, w.store.node? l = some (.file content)) ∧ (∃ path ∈ paths, w.store.Names path l) ∧
  ∀ i path, paths[i]? = some path → w.store.Names path l →
    w.faultAt? .remove (w.counts .remove + i + 1) ≠ none

/-- What two runs come to that release some paths from `v`, the second one with more faults. A file that
the faults leave is there after the second run and gone after the first; what else the paths name is gone
after both; and everything else is there after both, but for lines of the log as it was. -/
structure Leftover (refused : List TempFault) (paths : List Text) (v smooth rough : World) :
    Prop where
  left : ∀ l, (v.refusing refused).Leaves paths l → smooth.store.node? l = none ∧ v.Keeps rough l
  gone : ∀ l, ¬ (v.refusing refused).Leaves paths l →
    (∃ content, v.store.node? l = some (.file content)) → (∃ path ∈ paths, v.store.Names path l) →
    smooth.store.node? l = none ∧ rough.store.node? l = none
  others : ∀ l, ¬ ((∃ content, v.store.node? l = some (.file content)) ∧
    ∃ path ∈ paths, v.store.Names path l) → v.Keeps smooth l ∧ v.Keeps rough l

/-- **The runs differ in nothing but what the faults leave.** -/
theorem Leftover.alike (h : Leftover refused paths v smooth rough) {l : Location}
    (hlog : ¬ v.logging.WritesAt l) (hl : ¬ (v.refusing refused).Leaves paths l) :
    rough.store.node? l = smooth.store.node? l := by
  by_cases hnamed : (∃ content, v.store.node? l = some (.file content)) ∧
    ∃ path ∈ paths, v.store.Names path l
  · obtain ⟨hsmooth, hrough⟩ := h.gone l hl hnamed.1 hnamed.2
    rw [hsmooth, hrough]
  · obtain ⟨hsmooth, hrough⟩ := h.others l hnamed
    rw [hsmooth.eq hlog, hrough.eq hlog]

theorem leftover_of_cleared (hv : v.Spares .remove) {attempts attempts' : List Attempt}
    (hmap : attempts.map Attempt.path = paths) (hmap' : attempts'.map Attempt.path = paths)
    (h : v.Cleared attempts smooth) (h' : (v.refusing refused).Cleared attempts' rough) :
    Leftover refused paths v smooth rough := by
  -- without faults nothing that is named remains
  have hsmooth {l : Location} {content : Bytes} (hfile : v.store.node? l = some (.file content))
      (hnamed : ∃ path ∈ paths, v.store.Names path l) : smooth.store.node? l = none := by
    obtain ⟨path, hpath, hn⟩ := hnamed
    obtain ⟨i, hi⟩ := List.getElem?_of_mem hpath
    exact (h.gone_iff hfile).2 ⟨i, path, hmap ▸ hi, hn, hv.faultAt? _⟩
  refine ⟨fun l hl => ?_, fun l hl hfile hnamed => ?_, fun l hl => ?_⟩
  · obtain ⟨⟨content, hfile⟩, hnamed, hrefused⟩ := hl
    refine ⟨hsmooth hfile hnamed, h'.kept l ?_⟩
    -- an attempt that succeeded would have come without a fault
    rintro ⟨a, ha, hok, hn⟩
    obtain ⟨i, hi⟩ := List.getElem?_of_mem ha
    have hpath : paths[i]? = some a.path := by rw [← hmap', List.getElem?_map, hi]; rfl
    exact hrefused i a.path hpath hn (h'.refused i a hi hok)
  · obtain ⟨content, hfile⟩ := hfile
    refine ⟨hsmooth hfile hnamed, ?_⟩
    by_cases hgone : rough.store.node? l = none
    · exact hgone
    · refine absurd ⟨⟨content, hfile⟩, hnamed, fun i path hi hn hfree => hgone ?_⟩ hl
      exact (h'.gone_iff hfile).2 ⟨i, path, hmap' ▸ hi, hn, hfree⟩
  · by_cases hfile : ∃ content, v.store.node? l = some (.file content)
    · have hunnamed (as : List Attempt) (has : as.map Attempt.path = paths) :
          ¬ ∃ a ∈ as, a.outcome = .ok () ∧ v.store.Names a.path l := by
        rintro ⟨a, ha, -, hn⟩
        exact hl ⟨hfile, a.path, has ▸ List.mem_map_of_mem ha, hn⟩
      exact ⟨h.kept l (hunnamed attempts hmap), h'.kept l (hunnamed attempts' hmap')⟩
    · have hnone (content : Bytes) : v.store.node? l ≠ some (.file content) :=
        fun hc => hfile ⟨content, hc⟩
      exact ⟨.of_eq (h.unfiled hnone), .of_eq (h'.unfiled hnone)⟩

end World

namespace Dispatch

/-- **Cleanup failures are invisible.** Let an engine go by its order and the files, and let removals be
possible at first. If then any of them are refused by errors of the system, an operation on a form ends
in the same way as before; the engine is called at the same moment, with the same order and the same
files; and of the files the operation made itself those are left all of whose removals are refused,
while everything else is as it is without the faults. -/
theorem cleanup_failures_are_invisible
    (engine : EngineRef → Order → Store → Except Failure Value × Store) (operation : Campaign)
    (form : Form) (w : World) (refused : List TempFault) (hw : w.Spares .remove)
    (hrefused : ∀ f ∈ refused, f.call = .remove ∧ f.failure.kind.isA .osError = true) :
    let smooth := perform (ofFiles engine) operation form w
    let rough := perform (ofFiles engine) operation form (w.refusing refused)
    rough.1 = smooth.1 ∧
    entered? operation form (w.refusing refused) =
      (entered? operation form w).map (·.refusing refused) ∧
    ∃ outcome files v, undertaking (ofFiles engine) operation form
        (TempFiles.none w.service.tempDir TempFiles.defaultStem) w = ((outcome, files), v) ∧
      smooth.1 = outcome ∧
      (∀ path ∈ files.paths, ∃ l, w.store.Names path l ∧ w.store.node? l = none) ∧
      Leftover refused files.paths v smooth.2 rough.2 ∧
      ∀ l, ¬ v.logging.WritesAt l → ¬ (v.refusing refused).Leaves files.paths l →
        rough.2.store.node? l = smooth.2.store.node? l := by
  intro smooth rough
  have hremove : ∀ f ∈ refused, f.call = .remove := fun f hf => (hrefused f hf).1
  have hnotices (e : EngineRef) (order : Order) :
      Act.Blind (·.refusing refused) (ofFiles engine e order) := fun _ => rfl
  have hblind := undertaking_blind hremove hnotices operation form
    (TempFiles.none w.service.tempDir TempFiles.defaultStem) w
  obtain ⟨u, hdrafted⟩ :=
    undertaking_files (ofFiles engine) operation form w.service.tempDir w
  have hsmooth := perform_eq (ofFiles engine) operation form w
  have hrough := perform_eq (ofFiles engine) operation form (w.refusing refused)
  have hservice : (w.refusing refused).service = w.service := rfl
  rw [hservice, hblind] at hrough
  rcases hrun : undertaking (ofFiles engine) operation form
    (TempFiles.none w.service.tempDir TempFiles.defaultStem) w with ⟨⟨outcome, files⟩, v⟩
  rw [hrun] at hdrafted hsmooth hrough
  have hsets (e : EngineRef) (order : Order) :
      Act.Within (fun w v => v.faults = w.faults) (ofFiles engine e order) := fun _ => rfl
  have hsame := undertaking_faults hsets operation form
    (TempFiles.none w.service.tempDir TempFiles.defaultStem) w
  rw [hrun] at hsame
  have hspares : v.Spares .remove := fun f hf => hw f (hsame ▸ hf)
  have hfaults : (v.refusing refused).RemovalFaults := by
    intro f hf hcall
    rcases List.mem_append.1 hf with hf | hf
    · exact absurd hcall (hspares f hf)
    · exact (hrefused f hf).2
  -- both releases try the same paths, from the same files
  obtain ⟨attempts, z, -, hrelease, hmap, htried, -⟩ :=
    Drafting.release_tries hdrafted.unreleased hspares.removal hdrafted.clean
  obtain ⟨attempts', z', -, hrelease', hmap', htried', -⟩ :=
    Drafting.release_tries hdrafted.unreleased hfaults hdrafted.clean
  have hsmooth : smooth = (outcome, z) := by
    rw [show smooth = _ from hsmooth]
    simp only [ensure_apply, settle_apply, hrelease]
  have hrough : rough = (outcome, z') := by
    rw [show rough = _ from hrough]
    simp only [ensure_apply, settle_apply, hrelease']
  have hleft : Leftover refused files.paths v z z' :=
    leftover_of_cleared hspares hmap hmap' htried.cleared htried'.cleared
  rw [hsmooth, hrough]
  exact ⟨rfl, entered?_refusing hremove operation form w, outcome, files, v, rfl, rfl,
    hdrafted.names, hleft, fun l hlog hl => hleft.alike hlog hl⟩

/-- An engine that fails, and takes note of the recipients it was given in a file of its own. -/
def failing : EngineRef → Order → Store → Except Failure Value × Store := fun _ _ store =>
  (.error (.valueError "no route to host"), store.put ["tmp", "report"] (.file [1]))

/-- The first removal is refused. The failure of the engine is passed on as if nothing had happened, the
template is left, and the recipients are gone all the same. -/
theorem cleanup_failures_are_invisible_of_failing :
    let refused : List TempFault := [⟨.remove, 1, .system .isDirectory "/tmp"⟩]
    let smooth := perform (ofFiles failing) .run Sample.form Sample.world
    let rough := perform (ofFiles failing) .run Sample.form (Sample.world.refusing refused)
    Sample.world.Spares .remove ∧
    (∀ f ∈ refused, f.call = .remove ∧ f.failure.kind.isA .osError = true) ∧
    rough.1 = smooth.1 ∧ (∃ f, smooth.1 = .error f ∧ f.kind = .engineError) ∧
    smooth.2.store.node? ["tmp", "mailgrid-ui-1.html"] = none ∧
    rough.2.store.node? ["tmp", "mailgrid-ui-1.html"] = some (.file [60, 112, 62]) ∧
    rough.2.store.node? ["tmp", "mailgrid-ui-2.csv"] = none ∧
    rough.2.store.node? ["tmp", "report"] = some (.file [1]) := by
  intro refused smooth rough
  have hspares : Sample.world.Spares .remove := nofun
  have hrefused : ∀ f ∈ refused, f.call = .remove ∧ f.failure.kind.isA .osError = true := by
    intro f hf
    cases List.mem_singleton.1 hf
    exact ⟨rfl, system_isA_osError _ _⟩
  obtain ⟨hsame, -, -⟩ :=
    cleanup_failures_are_invisible failing .run Sample.form Sample.world refused hspares hrefused
  have hended : ((match smooth.1 with
      | .error f => some f.kind
      | .ok _ => none), smooth.2.store.node? ["tmp", "mailgrid-ui-1.html"]) =
      (some .engineError, none) := by decide +kernel
  have hleft : (rough.2.store.node? ["tmp", "mailgrid-ui-1.html"],
      rough.2.store.node? ["tmp", "mailgrid-ui-2.csv"], rough.2.store.node? ["tmp", "report"]) =
      (some (.file [60, 112, 62]), none, some (.file [1])) := by decide +kernel
  simp only [Prod.mk.injEq] at hended hleft
  obtain ⟨hkind, hgone⟩ := hended
  refine ⟨hspares, hrefused, hsame, ?_, hgone, hleft⟩
  rcases hout : smooth.1 with f | _ <;> rw [hout] at hkind
  · exact ⟨f, rfl, Option.some.inj hkind⟩
  · cases hkind

end Dispatch

end CampaignDesk
