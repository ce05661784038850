import CampaignDesk.Proofs.Sample
import CampaignDesk.Proofs.Text.Utf8
import CampaignDesk.Settings.Document

/-!
# What a settings document comes to

A document is any value that a parser makes of the settings file.

* `Settings.level?_eq_ok`, `Settings.format?_eq_ok`: which values name a level, and which a format.
* `Settings.overlay?_cases`, `Settings.ofDocument?_dict`: the ways in which a mapping is read or refused.
* `Settings.Fits`: the documents that settings can be made of. `Settings.Overlaid`: what settings are then.
* `Settings.documents_read_or_refused`: **settings come of a document exactly if it fits, and are the
  defaults with what it gives**; every other document is refused as unusable, but for mappings with a key
  that is no text, and for numbers that cannot be written out.
* `Settings.numbered_key_escapes`: such a key is not refused as what it is, a field that does not exist.
-/

namespace CampaignDesk

theorem Level.ofName?_eq_some {name : Text} {l : Level} :
    ofName? name = some l ↔ l ∈ all ∧ l.name = name := by
  constructor
  · intro h
    exact ⟨List.mem_of_find?_eq_some h, by simpa using List.find?_some h⟩
  · rintro ⟨hmem, rfl⟩
    -- the five names are all different
    have hall : ∀ l ∈ all, ofName? l.name = some l := by decide
    exact hall l hmem

theorem LogFormat.offered?_eq_some {v : Value} {f : LogFormat} :
    offered? v = some f ↔ f ∈ offered ∧ v = .ofString f.name := by
  constructor
  · intro h
    unfold offered? at h
    split at h
    · next t =>
      have hname : Text.ofString f.name = t := by simpa using List.find?_some h
      exact ⟨List.mem_of_find?_eq_some h, congrArg Value.text hname.symm⟩
    · cases h
  · rintro ⟨hmem, rfl⟩
    have hall : ∀ f ∈ offered, offered? (.ofString f.name) = some f := by decide
    exact hall f hmem

namespace Settings

variable {given : Entries} {v : Value} {s : Settings} {f : Failure}

/-! ## Single fields -/

/-- A value reads as one of the five levels in small or in capital letters. -/
def NamesLevel (v : Value) (l : Level) : Prop :=
  l ∈ Level.all ∧ ∃ t, v.show? = .ok t ∧ t.upper = l.name

/-- A value is the name of a format. -/
def NamesFormat (v : Value) (f : LogFormat) : Prop :=
  f ∈ LogFormat.offered ∧ v = .ofString f.name

theorem show?_cases (v : Value) :
    (v.isShowable = true ∧ v.show? = .ok v.display) ∨
      (v.isShowable = false ∧ v.show? = .error .tooLong) := by
  unfold Value.show?
  cases v.isShowable
  · exact .inr ⟨rfl, rfl⟩
  · exact .inl ⟨rfl, rfl⟩

theorem level?_eq_ok {l : Level} : level? v = .ok l ↔ NamesLevel v l := by
  rcases show?_cases v with ⟨-, hshow⟩ | ⟨-, hshow⟩
  · have hnames : NamesLevel v l ↔ Level.ofName? v.display.upper = some l := by
      rw [Level.ofName?_eq_some, NamesLevel, hshow]
      simp [eq_comm]
    rw [hnames, level?, hshow]
    dsimp only [bind, Except.bind]
    cases Level.ofName? v.display.upper with
    | some l => simp [pure, Except.pure]
    | none => exact iff_of_false nofun nofun
  · have hlevel : level? v = .error .tooLong := by
      rw [level?, hshow]
      rfl
    simp [hlevel, NamesLevel, hshow]

/-- A value that names no level is refused, unless it cannot even be written out. -/
theorem level?_eq_error (h : level? v = .error f) :
    f.kind = if v.isShowable then .settingsError else .valueError := by
  rcases show?_cases v with ⟨hshowable, hshow⟩ | ⟨hshowable, hshow⟩
  all_goals rw [level?, hshow] at h; rw [hshowable]
  · dsimp only [bind, Except.bind] at h
    split at h <;> cases h
    rfl
  · cases h
    rfl

theorem format?_eq_ok {g : LogFormat} : format? v = .ok g ↔ NamesFormat v g := by
  rw [NamesFormat, ← LogFormat.offered?_eq_some, format?]
  cases LogFormat.offered? v with
  | some g => simp
  | none =>
    rcases show?_cases v with ⟨-, hshow⟩ | ⟨-, hshow⟩
    all_goals rw [hshow]; exact iff_of_false nofun nofun

theorem format?_eq_error (h : format? v = .error f) :
    f.kind = if v.isShowable then .settingsError else .valueError := by
  unfold format? at h
  split at h
  · cases h
  · rcases show?_cases v with ⟨hshowable, hshow⟩ | ⟨hshowable, hshow⟩
    all_goals rw [hshow] at h; rw [hshowable]; cases h; rfl

/-! ## Mappings -/

/-- What a mapping gives for a field. -/
abbrev given? (given : Entries) (name : String) : Option Value :=
  Value.lookup? (Text.ofString name) given

/-- What some entries come to in a field: what the value there names, or the default without one. -/
def Chosen {α : Type} (names : Value → α → Prop) (default : α) (field : Option Value) (a : α) : Prop :=
  (∀ v, field = some v → names v a) ∧ (field = none → a = default)

/-- A field is read if it is given, and has its default if not. -/
theorem field_eq_ok {α : Type} {read? : Value → Except Failure α} {names : Value → α → Prop}
    (h : ∀ v a, read? v = .ok a ↔ names v a) {field : Option Value} {default a : α} :
    (field.map read?).getD (.ok default) = .ok a ↔ Chosen names default field a := by
  cases field with
  | none => simp [Chosen, eq_comm]
  | some v => simp [Chosen, h]

theorem field_eq_error {α : Type} {read? : Value → Except Failure α} {field : Option Value}
    {default : α} : (field.map read?).getD (.ok default) = .error f ↔
      ∃ v, field = some v ∧ read? v = .error f := by
  cases field with
  | none => simp
  | some v => simp

/-- The level that some entries come to. -/
abbrev LevelIn (given : Entries) : Level → Prop :=
  Chosen NamesLevel initial.logLevel (given? given "log_level")

/-- The format that some entries come to. -/
abbrev FormatIn (given : Entries) : LogFormat → Prop :=
  Chosen NamesFormat initial.logFormat (given? given "log_format")

/-- The ways in which entries are read or refused: the level is looked at first, then the format. -/
theorem overlay?_cases (given : Entries) :
    (∃ v f, given? given "log_level" = some v ∧ level? v = .error f ∧
      overlay? given = .error f) ∨
    (∃ l v f, LevelIn given l ∧ given? given "log_format" = some v ∧ format? v = .error f ∧
      overlay? given = .error f) ∨
    (∃ l g, LevelIn given l ∧ FormatIn given g ∧ overlay? given = .ok
      ⟨(given? given "temp_dir").getD initial.tempDir, (given? given "log_file").getD initial.logFile,
        l, g⟩) := by
  rcases hlevel : ((given? given "log_level").map level?).getD (.ok initial.logLevel) with f | l
  · obtain ⟨v, hv, herror⟩ := field_eq_error.1 hlevel
    exact .inl ⟨v, f, hv, herror, by rw [overlay?, hlevel]; rfl⟩
  have hl : LevelIn given l := (field_eq_ok fun _ _ => level?_eq_ok).1 hlevel
  rcases hformat : ((given? given "log_format").map format?).getD (.ok initial.logFormat) with f | g
  · obtain ⟨v, hv, herror⟩ := field_eq_error.1 hformat
    exact .inr (.inl ⟨l, v, f, hl, hv, herror, by rw [overlay?, hlevel, hformat]; rfl⟩)
  · have hg : FormatIn given g := (field_eq_ok fun _ _ => format?_eq_ok).1 hformat
    exact .inr (.inr ⟨l, g, hl, hg, by rw [overlay?, hlevel, hformat]; rfl⟩)

theorem isField_iff {k : Key} : isField k = true ↔ ∃ name ∈ fieldNames, k = .ofString name := by
  cases k with
  | text t =>
    simp only [isField, List.any_eq_true, decide_eq_true_eq, Key.ofString, Key.text.injEq]
    exact exists_congr fun name => and_congr_right fun _ => eq_comm
  | _ => exact iff_of_false nofun (by rintro ⟨name, -, h⟩; cases h)

/-- Every entry is for a field. -/
def Known (given : Entries) : Prop := ∀ e ∈ given, ∃ name ∈ fieldNames, e.1 = .ofString name

/-- Keys can be listed if they are texts. -/
theorem textKeys_isSome (ks : List Key) :
    (ks.mapM textKey?).isSome = true ↔ ∀ k ∈ ks, ∃ t, k = .text t := by
  induction ks with
  | nil => simp
  | cons k ks ih =>
    rw [List.forall_mem_cons, ← ih, List.mapM_cons]
    cases k with
    | text t => cases ks.mapM textKey? <;> simp [textKey?]
    | _ => simp [textKey?]

theorem unknownKeys_kind (first : Key) (rest : List Key) :
    (unknownKeys first rest).kind = .settingsError ∧ (∀ k ∈ first :: rest, ∃ t, k = .text t) ∨
      (unknownKeys first rest).kind = .typeError ∧ ∃ k ∈ first :: rest, ∀ t, k ≠ .text t := by
  have hlisted := textKeys_isSome (first :: rest)
  unfold unknownKeys
  rcases hkeys : (first :: rest).mapM textKey? with _ | names <;> rw [hkeys] at hlisted
  · have hother : ¬∀ k ∈ first :: rest, ∃ t, k = .text t := fun hall => nomatch hlisted.2 hall
    obtain ⟨k, hk, hother⟩ : ∃ k ∈ first :: rest, ∀ t, k ≠ .text t := by
      simpa only [Classical.not_forall, not_exists, exists_prop] using hother
    refine .inr ⟨?_, k, hk, hother⟩
    dsimp only
    split <;> rfl
  · exact .inl ⟨rfl, hlisted.1 rfl⟩

/-- Entries that are all for fields are laid over the defaults; with any other, the mapping is refused. -/
theorem ofDocument?_dict (path : PathForm) (given : Entries) :
    (Known given ∧ ofDocument? path (.dict given) = overlay? given) ∨
    (¬Known given ∧ ∃ f, ofDocument? path (.dict given) = .error f ∧
      (f.kind = .settingsError ∧ (∀ e ∈ given, ∃ t, e.1 = .text t) ∨
        f.kind = .typeError ∧ ∃ e ∈ given, ∀ t, e.1 ≠ .text t)) := by
  have hmem (k : Key) : k ∈ (given.map (·.1)).filter (fun k => !isField k) ↔
      (∃ e ∈ given, e.1 = k) ∧ isField k = false := by
    simp
  rcases hunknown : (given.map (·.1)).filter (fun k => !isField k) with _ | ⟨first, rest⟩
  · refine .inl ⟨fun e he => ?_, by rw [ofDocument?, hunknown]⟩
    rcases hfield : isField e.1 with _ | _
    · have hin := (hmem e.1).2 ⟨⟨e, he, rfl⟩, hfield⟩
      rw [hunknown] at hin
      cases hin
    · exact isField_iff.1 hfield
  · rw [hunknown] at hmem
    refine .inr ⟨fun hknown => ?_, unknownKeys first rest, by rw [ofDocument?, hunknown], ?_⟩
    · obtain ⟨⟨e, he, hfirst⟩, hfield⟩ := (hmem first).1 List.mem_cons_self
      have hyes := isField_iff.2 (hknown e he)
      rw [hfirst, hfield] at hyes
      cases hyes
    rcases unknownKeys_kind first rest with ⟨hkind, htexts⟩ | ⟨hkind, k, hk, hother⟩
    · refine .inl ⟨hkind, fun e he => ?_⟩
      rcases hfield : isField e.1 with _ | _
      · exact htexts _ ((hmem e.1).2 ⟨⟨e, he, rfl⟩, hfield⟩)
      · obtain ⟨name, -, hname⟩ := isField_iff.1 hfield
        exact ⟨_, hname⟩
    · obtain ⟨⟨e, he, rfl⟩, -⟩ := (hmem k).1 hk
      exact .inr ⟨hkind, e, he, hother⟩

/-! ## Documents -/

/-- The entries of a document: an empty document is one without any. -/
def entriesIn : Value → Entries
  | .dict given => given
  | _ => []

/-- Settings can be made of a document: it is empty, or a mapping whose entries are all for fields, with a
level that is one and a format that is one, if they are given. -/
def Fits (d : Value) : Prop :=
  d = .null ∨ ∃ given, d = .dict given ∧ Known given ∧ (∃ l, LevelIn given l) ∧ ∃ g, FormatIn given g

/-- A mapping has a key that is no text. -/
def Unlistable (d : Value) : Prop := ∃ given, d = .dict given ∧ ∃ e ∈ given, ∀ t, e.1 ≠ .text t

/-- A mapping has entries for fields only, and its level, or its format beside a level that is one, cannot
be written out. -/
def Unwritable (d : Value) : Prop := ∃ given, d = .dict given ∧ Known given ∧
  ((∃ v, given? given "log_level" = some v ∧ v.isShowable = false) ∨
    (∃ l, LevelIn given l) ∧ ∃ v, given? given "log_format" = some v ∧ v.isShowable = false)

/-- A field of the settings that some entries describe: as it is given, but for the level, which is in
capitals, or else as it is where nothing is set. -/
def overlaid (given : Entries) (name : String) : Option Value :=
  match given? given name with
  | none => given? initial.entries name
  | some v => some (if name = "log_level" then .text v.display.upper else v)

/-- The settings are the defaults with what some entries give. -/
structure Overlaid (given : Entries) (s : Settings) : Prop where
  level : s.logLevel ∈ Level.all
  format : s.logFormat ∈ LogFormat.offered
  fields : ∀ name ∈ fieldNames, given? s.entries name = overlaid given name

/-- A value that names a level can be written out, and reads in capitals as the name of the level. -/
theorem NamesLevel.display {l : Level} (h : NamesLevel v l) :
    v.isShowable = true ∧ v.display.upper = l.name := by
  obtain ⟨-, t, hshow, hname⟩ := h
  rcases show?_cases v with ⟨hshowable, hv⟩ | ⟨-, hv⟩ <;> rw [hv] at hshow <;> cases hshow
  exact ⟨hshowable, hname⟩

theorem overlaid_of {l : Level} {g : LogFormat} (hl : LevelIn given l) (hg : FormatIn given g) :
    Overlaid given ⟨(given? given "temp_dir").getD initial.tempDir,
      (given? given "log_file").getD initial.logFile, l, g⟩ := by
  obtain ⟨hlevel, hnolevel⟩ := hl
  obtain ⟨hformat, hnoformat⟩ := hg
  refine ⟨?_, ?_, ?_⟩
  · rcases hv : given? given "log_level" with _ | v
    · exact hnolevel hv ▸ List.mem_cons_of_mem _ List.mem_cons_self
    · exact (hlevel v hv).1
  · rcases hv : given? given "log_format" with _ | v
    · exact hnoformat hv ▸ List.mem_cons_of_mem _ List.mem_cons_self
    · exact (hformat v hv).1
  simp only [fieldNames, List.forall_mem_cons, List.not_mem_nil, false_implies, implies_true, and_true]
  refine ⟨?_, ?_, ?_, ?_⟩
  · unfold overlaid
    rcases given? given "temp_dir" with _ | v <;> rfl
  · unfold overlaid
    rcases given? given "log_file" with _ | v <;> rfl
  · unfold overlaid
    rcases hv : given? given "log_level" with _ | v
    · rw [hnolevel hv]
      rfl
    · simp only [if_true, (hlevel v hv).display.2]
      rfl
  · unfold overlaid
    rcases hv : given? given "log_format" with _ | v
    · rw [hnoformat hv]
      rfl
    · rw [(hformat v hv).2]
      rfl

/-- A mapping with entries for fields only has no key that is no text. -/
theorem Known.listable (h : Known given) : ¬Unlistable (.dict given) := by
  rintro ⟨_, hd, e, he, hother⟩
  cases hd
  obtain ⟨name, -, hname⟩ := h e he
  exact hother _ hname

theorem Unwritable.listable {d : Value} (h : Unwritable d) : ¬Unlistable d := by
  obtain ⟨given, rfl, hknown, -⟩ := h
  exact hknown.listable

theorem Fits.listable {d : Value} (h : Fits d) : ¬Unlistable d := by
  rcases h with rfl | ⟨given, rfl, hknown, -⟩
  · rintro ⟨given, hd, -⟩
    cases hd
  · exact hknown.listable

theorem Fits.writable {d : Value} (h : Fits d) : ¬Unwritable d := by
  rintro ⟨given, rfl, -, hlong⟩
  rcases h with hnull | ⟨_, hd, -, ⟨l, hl⟩, ⟨g, hg⟩⟩
  · cases hnull
  cases hd
  rcases hlong with ⟨v, hv, hlong⟩ | ⟨-, v, hv, hlong⟩
  · cases (hl.1 v hv).display.1.symm.trans hlong
  · rw [(hg.1 v hv).2] at hlong
    cases hlong

/-- What a document comes to: settings, or a failure of one of three kinds. -/
inductive Outcome (d : Value) : Except Failure Settings → Prop
  | settings {s : Settings} (fits : Fits d) (overlaid : Overlaid (entriesIn d) s) : Outcome d (.ok s)
  | unlistable {f : Failure} (keys : Unlistable d) (kind : f.kind = .typeError) :
      Outcome d (.error f)
  | unwritable {f : Failure} (number : Unwritable d) (kind : f.kind = .valueError) :
      Outcome d (.error f)
  | unusable {f : Failure} (unfit : ¬Fits d) (keys : ¬Unlistable d) (number : ¬Unwritable d)
      (kind : f.kind = .settingsError) : Outcome d (.error f)

/-- A mapping whose level is not one. -/
theorem Outcome.of_level (hknown : Known given) (hv : given? given "log_level" = some v)
    (h : level? v = .error f) : Outcome (.dict given) (.error f) := by
  have hnone : ∀ l, ¬LevelIn given l := by
    intro l hl
    have hok := level?_eq_ok.2 (hl.1 v hv)
    rw [h] at hok
    cases hok
  have hkind := level?_eq_error h
  rcases hshowable : v.isShowable with _ | _ <;> rw [hshowable] at hkind
  · exact .unwritable ⟨given, rfl, hknown, .inl ⟨v, hv, hshowable⟩⟩ hkind
  refine .unusable ?_ hknown.listable ?_ hkind
  · rintro (hnull | ⟨_, hd, -, ⟨l, hl⟩, -⟩)
    · cases hnull
    · cases hd
      exact hnone l hl
  · rintro ⟨_, hd, -, ⟨w, hw, hlong⟩ | ⟨⟨l, hl⟩, -⟩⟩ <;> cases hd
    · cases hv.symm.trans hw
      cases hshowable.symm.trans hlong
    · exact hnone l hl

/-- A mapping whose format is not one, beside a level that is. -/
theorem Outcome.of_format (hknown : Known given) {l : Level} (hl : LevelIn given l)
    (hv : given? given "log_format" = some v) (h : format? v = .error f) :
    Outcome (.dict given) (.error f) := by
  have hnone : ∀ g, ¬FormatIn given g := by
    intro g hg
    have hok := format?_eq_ok.2 (hg.1 v hv)
    rw [h] at hok
    cases hok
  have hkind := format?_eq_error h
  rcases hshowable : v.isShowable with _ | _ <;> rw [hshowable] at hkind
  · exact .unwritable ⟨given, rfl, hknown, .inr ⟨⟨l, hl⟩, v, hv, hshowable⟩⟩ hkind
  refine .unusable ?_ hknown.listable ?_ hkind
  · rintro (hnull | ⟨_, hd, -, -, ⟨g, hg⟩⟩)
    · cases hnull
    · cases hd
      exact hnone g hg
  · rintro ⟨_, hd, -, ⟨w, hw, hlong⟩ | ⟨-, w, hw, hlong⟩⟩ <;> cases hd
    · cases (hl.1 w hw).display.1.symm.trans hlong
    · cases hv.symm.trans hw
      cases hshowable.symm.trans hlong

theorem ofDocument?_outcome (path : PathForm) (d : Value) : Outcome d (ofDocument? path d) := by
  -- what is neither empty nor a mapping
  have hother {f : Failure} (h : ∀ given, d ≠ .dict given) (hd : d ≠ .null) (hf : f.kind = .settingsError) :
      Outcome d (.error f) := by
    refine .unusable ?_ ?_ ?_ hf
    · rintro (hnull | ⟨given, hgiven, -⟩)
      · exact hd hnull
      · exact h given hgiven
    · rintro ⟨given, hgiven, -⟩
      exact h given hgiven
    · rintro ⟨given, hgiven, -⟩
      exact h given hgiven
  cases d with
  | null => exact .settings (.inl rfl) (overlaid_of ⟨nofun, fun _ => rfl⟩ ⟨nofun, fun _ => rfl⟩)
  | dict given =>
    rcases ofDocument?_dict path given with
      ⟨hknown, hread⟩ | ⟨hunknown, f, hread, ⟨hkind, htexts⟩ | ⟨hkind, hkeys⟩⟩ <;> rw [hread]
    · rcases overlay?_cases given with
        ⟨v, f, hv, hlevel, hoverlay⟩ | ⟨l, v, f, hl, hv, hformat, hoverlay⟩ |
        ⟨l, g, hl, hg, hoverlay⟩ <;> rw [hoverlay]
      · exact .of_level hknown hv hlevel
      · exact .of_format hknown hl hv hformat
      · exact .settings (.inr ⟨given, rfl, hknown, ⟨l, hl⟩, ⟨g, hg⟩⟩) (overlaid_of hl hg)
    · refine .unusable ?_ ?_ ?_ hkind
      · rintro (hnull | ⟨_, hd, hknown, -⟩)
        · cases hnull
        · cases hd
          exact hunknown hknown
      · rintro ⟨_, hd, e, he, hkey⟩
        cases hd
        obtain ⟨t, ht⟩ := htexts e he
        exact hkey t ht
      · rintro ⟨_, hd, hknown, -⟩
        cases hd
        exact hunknown hknown
    · exact .unlistable ⟨given, rfl, hkeys⟩ hkind
  | _ => exact hother nofun nofun rfl

/-- The file at a path is there and has a text, and the parser makes a document of it. -/
structure Yields (parse : Text → Option Value) (store : Store) (path : PathForm) (d : Value) :
    Prop where
  found : store.probe? path.toText = .ok true
  document : ∃ text, store.readText? path = .ok text ∧ parse text = some d

theorem readWith?_yields {parse : Text → Option Value} {store : Store} {path : PathForm} {d : Value}
    (h : Yields parse store path d) : readWith? parse store path = ofDocument? path d := by
  obtain ⟨hfound, text, hread, hparse⟩ := h
  rw [Store.readText?] at hread
  rcases hcontent : store.read? path.toText with f | content <;> rw [hcontent] at hread
  · cases hread
  have htext : textOfBytes? content = .ok text := hread
  have hparsed : Parsed.ofText parse content = .document d := by
    unfold textOfBytes? at htext
    unfold Parsed.ofText
    rcases hdecode : Utf8.decode? content with fault | t <;> rw [hdecode] at htext
    · cases htext
    · cases htext
      simp only [hparse]
  simp only [readWith?, readBy?, hfound, hcontent, hparsed, ofParsed?, bind, Except.bind, Bool.not_true,
    Bool.false_eq_true, if_false]

/-- **A document is read or refused.** Let the file at a path be there with a text, and let the parser,
whatever it is, make a document of that.

* Settings come of it exactly if it is empty, or a mapping whose entries are all for fields, with a level
  that is one in capitals and a format that is one, if they are given.
* They are the defaults with what it gives, the level in capitals.
* A document that is refused is so for its type exactly if it is a mapping with a key that is no text, for
  a number in it exactly if its level or format cannot be written out, and in every other case as settings
  that cannot be used. -/
theorem documents_read_or_refused {parse : Text → Option Value} {store : Store} {path : PathForm}
    {d : Value} (h : Yields parse store path d) :
    let r := readWith? parse store path
    ((∃ s, r = .ok s) ↔ Fits d) ∧
    (∀ s, r = .ok s → Overlaid (entriesIn d) s) ∧
    (∀ f, r = .error f → (f.kind = .typeError ↔ Unlistable d) ∧ (f.kind = .valueError ↔ Unwritable d) ∧
      (f.kind = .settingsError ↔ ¬Unlistable d ∧ ¬Unwritable d)) := by
  intro r
  have houtcome : Outcome d r := by
    rw [show r = ofDocument? path d from readWith?_yields h]
    exact ofDocument?_outcome path d
  generalize r = r at houtcome
  refine ⟨?_, ?_, ?_⟩
  · cases houtcome with
    | settings fits overlaid => exact iff_of_true ⟨_, rfl⟩ fits
    | unlistable keys kind => exact iff_of_false nofun fun fits => fits.listable keys
    | unwritable number kind => exact iff_of_false nofun fun fits => fits.writable number
    | unusable unfit keys number kind => exact iff_of_false nofun unfit
  · rintro s rfl
    cases houtcome with
    | settings fits overlaid => exact overlaid
  · rintro f rfl
    cases houtcome with
    | unlistable keys kind =>
      have hnumber : ¬Unwritable d := fun number => number.listable keys
      simp [kind, keys, hnumber]
    | unwritable number kind => simp [kind, number, number.listable]
    | unusable unfit keys number kind => simp [kind, keys, number]

/-- A store with a settings file of some bytes. -/
def sampleStore (bytes : Bytes) : Store :=
  Sample.world.store.put ["tmp", "config.yaml"] (.file bytes)

/-- Whether a document is a mapping of one key to one text. -/
def isEntry (k : Key) (t : Text) : Option Value → Bool
  | some (.dict [(l, .text u)]) => l = k && u = t
  | _ => false

theorem eq_of_isEntry {k : Key} {t : Text} {document : Option Value}
    (h : isEntry k t document = true) : document = some (.dict [(k, .text t)]) := by
  unfold isEntry at h
  split at h
  · simp only [Bool.and_eq_true, decide_eq_true_eq] at h
    obtain ⟨rfl, rfl⟩ := h
    rfl
  · cases h

/-- A mapping that gives only the level, in small letters, is laid over the defaults. -/
theorem documents_read_or_refused_sample :
    let store := sampleStore (Utf8.ascii "log_level: debug")
    let d : Value := .dict [(.ofString "log_level", .ofString "debug")]
    Yields Yaml.read? store (.ofText "config.yaml") d ∧ Fits d ∧
      ∃ s, readWith? Yaml.read? store (.ofText "config.yaml") = .ok s ∧ Overlaid (entriesIn d) s := by
  intro store d
  have hyields : Yields Yaml.read? store (.ofText "config.yaml") d :=
    ⟨ok_of_toOption (by decide +kernel), "log_level: debug", ok_of_toOption (by decide +kernel),
      eq_of_isEntry (by decide +kernel)⟩
  have hfits : Fits d := by
    refine .inr ⟨_, rfl, ?_, ⟨.debug, ?_, nofun⟩, ⟨.pretty, nofun, fun _ => rfl⟩⟩
    · exact List.forall_mem_singleton.2 ⟨"log_level", by decide, rfl⟩
    · rintro v ⟨⟩
      exact ⟨List.mem_cons_self, _, rfl, by decide +kernel⟩
  obtain ⟨hread, hoverlaid, -⟩ := documents_read_or_refused hyields
  obtain ⟨s, hs⟩ := hread.2 hfits
  exact ⟨hyields, hfits, s, hs, hoverlaid s hs⟩

/-- **A key that is no text is not refused as what it is**, a field that does not exist: the list of such
keys cannot be put into words. -/
theorem numbered_key_escapes :
    Yaml.read? "1: x" = some (.dict [(.int 1, .ofString "x")]) ∧
    (match read? (sampleStore (Utf8.ascii "1: x")) (.ofText "config.yaml") with
      | .ok _ => none
      | .error f => some f.kind) = some .typeError :=
  ⟨eq_of_isEntry (by decide +kernel), by decide +kernel⟩

end Settings

end CampaignDesk
