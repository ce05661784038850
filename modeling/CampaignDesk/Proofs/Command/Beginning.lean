import CampaignDesk.Command.Run
import CampaignDesk.Proofs.Journal.Handlers
import CampaignDesk.Proofs.Mild

/-!
# How a call begins

Before a call does anything else, the settings are read and the log is set up.

* `Settings.loadBy?_ordinary`, `Logging.setUp_ordinary`: what this fails with does not ask to stop.
* `Command.hindrance?`: what keeps a call from beginning. `Command.begin_cases`: **a call begins exactly
  if nothing does; it adds to the store, and changes nothing else but the log.**
* `Command.begin_mild`: a mild world is mild once a call has begun.
-/

namespace CampaignDesk

open World Act

/-! ## Settings that cannot be read -/

theorem Environment.expand?_ordinary (e : Environment) (path : PathForm) :
    Ordinary (e.expand? path) := by
  unfold expand?
  split
  · exact ordinary_ok _
  · exact ordinary_error rfl

theorem Environment.home?_ordinary (e : Environment) : Ordinary e.home? := by
  unfold home?
  split
  · exact e.expand?_ordinary _
  · exact (e.expand?_ordinary _).bind fun _ => ordinary_ok _

theorem Store.probe?_ordinary (s : Store) (path : Text) : Ordinary (s.probe? path) := by
  unfold probe?
  split
  · exact ordinary_error (system_isOrdinary .nameTooLong path)
  · exact ordinary_ok _
  · exact ordinary_ok _

theorem Value.show?_ordinary (v : Value) : Ordinary v.show? := by
  unfold show?
  split
  · exact ordinary_ok _
  · exact ordinary_error rfl

namespace Settings

theorem level?_ordinary (v : Value) : Ordinary (level? v) := by
  refine v.show?_ordinary.bind fun shown => ?_
  dsimp only
  split
  · exact ordinary_ok _
  · exact ordinary_error rfl

theorem format?_ordinary (v : Value) : Ordinary (format? v) := by
  unfold format?
  split
  · exact ordinary_ok _
  · exact v.show?_ordinary.bind fun _ => ordinary_error rfl

/-- A field that is not given has its default, and one that is given is read. -/
theorem field_ordinary {α : Type} {read? : Value → Except Failure α} (h : ∀ v, Ordinary (read? v))
    (field : Option Value) (default : α) : Ordinary ((field.map read?).getD (.ok default)) := by
  cases field with
  | none => exact ordinary_ok default
  | some v => exact h v

theorem overlay?_ordinary (given : Entries) : Ordinary (overlay? given) :=
  (field_ordinary level?_ordinary _ _).bind fun _ =>
    (field_ordinary format?_ordinary _ _).bind fun _ => ordinary_ok _

theorem ofDocument?_ordinary (path : PathForm) (v : Value) : Ordinary (ofDocument? path v) := by
  unfold ofDocument?
  split
  · exact ordinary_ok _
  · split
    · refine ordinary_error ?_
      unfold unknownKeys
      split
      · rfl
      · dsimp only
        split <;> rfl
    · exact overlay?_ordinary _
  · exact ordinary_error rfl

theorem ofParsed?_ordinary (path : PathForm) (parsed : Parsed) : Ordinary (ofParsed? path parsed) := by
  cases parsed with
  | document v => exact ofDocument?_ordinary path v
  | malformed complaint => exact ordinary_error rfl
  | failed f ordinary => exact ordinary_error ordinary

/-- Settings that cannot be read are refused in an ordinary way, whatever the parser. -/
theorem loadBy?_ordinary (parse : Bytes → Parsed) (e : Environment) (s : Store) :
    Ordinary (loadBy? parse e s) := by
  refine (e.home?_ordinary.bind fun _ => ordinary_ok _).bind fun path => ?_
  refine (s.probe?_ordinary path.toText).bind fun found => ?_
  cases found with
  | false => exact ordinary_ok _
  | true => exact (Store.guarded_ordinary _ _).bind fun content => ofParsed?_ordinary path _

theorem logPath?_ordinary (settings : Settings) (e : Environment) (now : Moment)
    (directory : Option PathForm) : Ordinary (settings.logPath? e now directory) := by
  unfold logPath?
  split
  · refine (e.expand?_ordinary _).bind fun path => ?_
    split
    · exact ordinary_ok _
    · cases directory with
      | some d => exact ordinary_ok _
      | none => exact e.home?_ordinary.bind fun _ => ordinary_ok _
  · exact ordinary_error rfl

end Settings

/-! ## Logs that cannot be set up -/

theorem Store.ensureDirectory?_ordinary (s : Store) (path : Text) :
    Ordinary (s.ensureDirectory? path) := by
  unfold ensureDirectory?
  have hmake : Ordinary (s.makeDirectory? path) := guarded_ordinary path _
  split
  · exact ordinary_ok _
  · next f herror =>
    split
    · exact ordinary_ok _
    · exact ordinary_error (hmake f herror)

theorem Store.ensureDirectories?_ordinary (above : Nat) (s : Store) (path : PathForm) :
    Ordinary (ensureDirectories? above s path) := by
  induction above generalizing s path with
  | zero => exact ensureDirectory?_ordinary s _
  | succ above ih =>
    have hensure := ensureDirectory?_ordinary s path.toText
    unfold ensureDirectories?
    split
    · exact ordinary_ok _
    · next f herror =>
      split
      · exact (ih s path.parent).bind fun t => ensureDirectory?_ordinary t _
      · exact ordinary_error (hensure f herror)

theorem Logging.threshold?_ordinary (level : Value) : Ordinary (threshold? level) := by
  unfold threshold?
  split
  · unfold weight?
    split
    · exact ordinary_ok _
    · split
      · exact ordinary_error rfl
      · exact ordinary_error rfl
  · exact ordinary_error rfl

theorem Logging.openFile?_ordinary (s : Store) (path : PathForm) : Ordinary (openFile? s path) := by
  refine Ordinary.bind (Store.guarded_ordinary _ _) fun t => Ordinary.bind ?_ fun _ => ordinary_ok _
  unfold Store.about
  split
  · exact ordinary_ok _
  · exact ordinary_error (system_isOrdinary _ _)

/-- The log is set up, or fails to be in an ordinary way. -/
theorem Logging.setUp_ordinary (r : LogRequest) (s : Store) (g : Logging) :
    Ordinary (setUp r s g).1 := by
  have hmake : Ordinary (s.makeDirectories? r.path.parent) := Store.ensureDirectories?_ordinary _ _ _
  unfold setUp
  rcases hm : s.makeDirectories? r.path.parent with f | made
  · exact ordinary_error (hmake f hm)
  dsimp only
  rcases ht : threshold? r.level with f | threshold
  · exact ordinary_error (threshold?_ordinary _ f ht)
  dsimp only
  rcases ho : openFile? made r.path with f | ⟨opened, l⟩
  · exact ordinary_error (openFile?_ordinary made r.path f ho)
  · exact ordinary_ok _

/-! ## What keeps a call from beginning -/

namespace Command

/-- Where a call with some settings writes its log. -/
def logPlace? (settings : Settings) (w : World) : Except Failure PathForm := do
  settings.logPath? w.environment w.now (some (← w.environment.home?))

/-- The log that a call with some settings asks for. -/
def logRequest (verbose : Bool) (settings : Settings) (path : PathForm) : LogRequest :=
  ⟨path, .text (if verbose then Level.debug else settings.logLevel).name, settings.logFormat, verbose⟩

/-- **What keeps a call from beginning**: settings that cannot be read, unless the desk refuses them
itself, a place for the log that cannot be told, or a log that cannot be set up. -/
def hindrance? (verbose : Bool) (w : World) : Option Failure :=
  match Settings.loadBy? w.host.yaml w.environment w.store with
  | .error f => if f.kind.isDesk then none else some f
  | .ok settings =>
    match logPlace? settings w with
    | .error f => some f
    | .ok path =>
      match (w.logging.setUp (logRequest verbose settings path) w.store).1 with
      | .error f => some f
      | .ok () => none

variable {verbose : Bool} {w : World}

/-- What keeps a call from beginning does not ask to stop. -/
theorem hindrance?_isOrdinary {f : Failure} (h : hindrance? verbose w = some f) :
    f.kind.isOrdinary = true := by
  unfold hindrance? at h
  rcases hload : Settings.loadBy? w.host.yaml w.environment w.store with g | settings <;> rw [hload] at h
  · dsimp only at h
    split at h
    · cases h
    · cases h
      exact Settings.loadBy?_ordinary w.host.yaml w.environment w.store f hload
  dsimp only at h
  rcases hplace : logPlace? settings w with g | path <;> rw [hplace] at h
  · cases h
    have hordinary : Ordinary (logPlace? settings w) :=
      w.environment.home?_ordinary.bind fun _ => Settings.logPath?_ordinary _ _ _ _
    exact hordinary f hplace
  dsimp only at h
  rcases hset : (w.logging.setUp (logRequest verbose settings path) w.store).1 with g | _ <;>
    rw [hset] at h
  · cases h
    exact Logging.setUp_ordinary _ _ _ f hset
  · cases h

/-- The world once the log has been set up, or has failed to be. -/
def logged (r : LogRequest) (w : World) : World := { w with
  store := (w.logging.setUp r w.store).2.1
  logging := (w.logging.setUp r w.store).2.2 }

/-- A call whose settings can be used sets up their log. -/
theorem begin_of_loaded {settings : Settings}
    (h : Settings.loadBy? w.host.yaml w.environment w.store = .ok settings) :
    begin verbose w = match logPlace? settings w with
      | .error f => (.error f, w)
      | .ok path =>
        ((w.logging.setUp (logRequest verbose settings path) w.store).1.map fun _ => .ok settings,
          logged (logRequest verbose settings path) w) := by
  rw [begin, Act.bind_apply, Act.get_apply]
  simp only [h]
  rcases hhome : w.environment.home? with f | home
  · have hplace : logPlace? settings w = .error f := by
      rw [logPlace?, hhome]
      rfl
    rw [hplace]
    rfl
  have hplace : logPlace? settings w = settings.logPath? w.environment w.now (some home) := by
    rw [logPlace?, hhome]
    rfl
  rw [hplace]
  simp only [Act.bind_apply, settle_apply]
  rcases settings.logPath? w.environment w.now (some home) with f | path
  · rfl
  have hset : Act.setUpLogging (logRequest verbose settings path) w =
      ((w.logging.setUp (logRequest verbose settings path) w.store).1,
        logged (logRequest verbose settings path) w) := rfl
  dsimp only
  rw [← logRequest, hset]
  rcases (w.logging.setUp (logRequest verbose settings path) w.store).1 with f | _
  · rfl
  · rfl

/-- **A call begins exactly if nothing keeps it from that**, and only adds to the files and the log. -/
theorem begin_cases (verbose : Bool) (w : World) :
    ∃ v, w.store.Extends v.store ∧ v = { w with store := v.store, logging := v.logging } ∧
      ((∃ f, hindrance? verbose w = some f ∧ begin verbose w = (.error f, v)) ∨
        (hindrance? verbose w = none ∧ ∃ settings, begin verbose w = (.ok settings, v))) := by
  unfold hindrance?
  rcases hload : Settings.loadBy? w.host.yaml w.environment w.store with f | settings
  · have hbegin : begin verbose w =
        if f.kind.isDesk then (.ok (.error f), w) else (.error f, w) := by
      rw [begin, Act.bind_apply, Act.get_apply]
      simp only [hload]
      split <;> rfl
    refine ⟨w, .refl w.store, rfl, ?_⟩
    rw [hbegin]
    dsimp only
    by_cases hdesk : f.kind.isDesk = true
    · rw [if_pos hdesk, if_pos hdesk]
      exact .inr ⟨rfl, _, rfl⟩
    · rw [if_neg hdesk, if_neg hdesk]
      exact .inl ⟨f, rfl, rfl⟩
  rw [begin_of_loaded hload]
  dsimp only
  rcases logPlace? settings w with f | path
  · exact ⟨w, .refl w.store, rfl, .inl ⟨f, rfl, rfl⟩⟩
  dsimp only
  refine ⟨logged (logRequest verbose settings path) w, Logging.extends_setUp _ _ _, rfl, ?_⟩
  rcases (w.logging.setUp (logRequest verbose settings path) w.store).1 with f | _
  · exact .inl ⟨f, rfl, rfl⟩
  · exact .inr ⟨rfl, _, rfl⟩

/-- The log is drawn on the console only for a verbose call with pretty lines. -/
theorem undrawn_of_begin {settings : Settings} {begun : World}
    (h : begin verbose w = (.ok (.ok settings), begun))
    (hconsole : ¬ (verbose = true ∧ settings.logFormat = .pretty)) : begun.logging.isDrawn = false := by
  rcases hload : Settings.loadBy? w.host.yaml w.environment w.store with f | s
  · rw [begin, Act.bind_apply, Act.get_apply] at h
    simp only [hload] at h
    split at h <;> cases h
  rw [begin_of_loaded hload] at h
  rcases hplace : logPlace? s w with f | path <;> rw [hplace] at h
  · cases h
  rcases hset : (w.logging.setUp (logRequest verbose s path) w.store).1 with f | ⟨⟩ <;>
    simp only [hset] at h <;> cases h
  have hrun : Act.setUpLogging (logRequest verbose settings path) w =
      (.ok (), logged (logRequest verbose settings path) w) := by
    rw [← hset]
    rfl
  obtain ⟨made, threshold, -, -, -, hlogged⟩ := Act.setUpLogging_eq_ok.1 hrun
  rw [hlogged]
  exact LogRequest.isDrawn_handlers hconsole

/-- Reading the settings and setting up the log changes nothing that failures may come from. -/
theorem begin_mild (verbose : Bool) (hw : w.Mild) : (begin verbose w).2.Mild := by
  obtain ⟨v, -, hrest, hbegun⟩ := begin_cases verbose w
  have hv : (begin verbose w).2 = v := by
    rcases hbegun with ⟨f, -, hbegin⟩ | ⟨-, settings, hbegin⟩ <;> rw [hbegin]
  rw [hv, hrest]
  exact ⟨hw.faults, hw.cwd, hw.entryPoints⟩

end Command

end CampaignDesk
