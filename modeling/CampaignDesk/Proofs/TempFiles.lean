import CampaignDesk.TempFiles
import CampaignDesk.Proofs.Store.Footprint
import CampaignDesk.Proofs.Text.Digits

/-!
# Temporary files come and go

* `write_steps`: all that writing a temporary file can do. Either nothing is made, or **the new path
  is registered and leads to a fresh location**, whatever became of the content.
* `removeAll_cases`: **releasing removes what the registered paths lead to, and nothing else.**
* `Drafted`: files differ from those at the start only where the registered paths lead, and there
  nothing stood before. Everything that drafts keeps this.
-/

namespace CampaignDesk

open Store World Act

variable {α β : Type}

/-- What the system refuses is an error of the system. -/
theorem system_isA_osError (e : SystemError) (path : Text) :
    (Failure.system e path).kind.isA .osError = true := by
  change (systemKind e.number).isA .osError = true
  cases e <;> decide

namespace TempCall

/-- Entering a call of the system changes the number of calls and nothing else. -/
theorem enter_eq (call : TempCall) (w : World) :
    ∃ outcome counts, enter call w = (outcome, { w with counts := counts }) ∧
      (w.Spares call → outcome = .ok ()) := by
  unfold enter
  simp only
  split
  · rename_i f hf
    refine ⟨_, _, rfl, fun h => ?_⟩
    have hcall := List.find?_some hf
    simp only [Bool.and_eq_true, decide_eq_true_eq] at hcall
    exact absurd hcall.1 (h f (List.mem_of_find?_eq_some hf))
  · exact ⟨_, _, rfl, fun _ => rfl⟩

/-- Making a file fails and leaves all files alone, or a path of the directory now leads to a new
empty file. -/
theorem createFile_cases (directory : Value) (stem suffix : Text) (w : World) :
    (∃ f v, createFile directory stem suffix w = (.error f, v) ∧ w.SameFiles v) ∨
    ∃ path l v number, createFile directory stem suffix w = (.ok (path, l), v) ∧
      path? w.systemTemp directory stem suffix number = .ok path ∧
      w.store.create? path = .ok (v.store, l) ∧ v.faults = w.faults ∧
      v.logging = w.logging.superseded l ∧ v.systemTemp = w.systemTemp := by
  obtain ⟨outcome, counts, hent, -⟩ := enter_eq .create w
  unfold createFile
  rcases outcome with f | _
  · exact .inl ⟨f, _, bind_error hent, .of_eq rfl rfl rfl⟩
  rw [bind_ok hent]
  simp only [bind_apply, get_apply, settle_apply]
  cases hpath : path? w.systemTemp directory stem suffix (counts .create) with
  | error f => exact .inl ⟨f, _, rfl, .of_eq rfl rfl rfl⟩
  | ok path =>
    cases hmade : w.store.create? path with
    | error f => exact .inl ⟨f, { w with counts := counts }, by simp only [hmade], .of_eq rfl rfl rfl⟩
    | ok made =>
      refine .inr ⟨path, made.2,
        { w with counts := counts, store := made.1, logging := w.logging.superseded made.2 }, _,
        ?_, hpath, hmade, rfl, rfl, rfl⟩
      simp only [hmade]
      rfl

/-- Filling a file fails and leaves it as it is, or puts the bytes of the text into it. -/
theorem fillFile_cases (l : Location) (content : Text) (w : World) :
    (∃ f v, fillFile l content w = (.error f, v) ∧ w.SameFiles v ∧
      v.systemTemp = w.systemTemp) ∨
    ∃ bytes v, fillFile l content w = (.ok (), v) ∧ Utf8.encode? content = .ok bytes ∧
      v.store = w.store.put l (.file bytes) ∧ v.faults = w.faults ∧ v.logging = w.logging ∧
      v.systemTemp = w.systemTemp := by
  obtain ⟨outcome, counts, hent, -⟩ := enter_eq .open w
  unfold fillFile
  rcases outcome with f | _
  · exact .inl ⟨f, _, bind_error hent, .of_eq rfl rfl rfl, rfl⟩
  rw [bind_ok hent]
  cases hbytes : Utf8.encode? content with
  | error fault => exact .inl ⟨_, _, rfl, .of_eq rfl rfl rfl, rfl⟩
  | ok bytes => exact .inr ⟨bytes, _, rfl, rfl, rfl, rfl, rfl, rfl⟩

/-- Removing a file by a path changes nothing but what the path leads to. If the system removes
files at all, nothing is there afterwards, and a failure only says that nothing was there before. -/
theorem removeFile_cases {path : Text} {l : Location} (w : World) (h : w.store.Names path l)
    (hfile : w.store.node? l ≠ some .directory) :
    ∃ outcome v, removeFile path w = (outcome, v) ∧ w.SameBut [l] v ∧
      (w.Spares .remove → v.store.node? l = none ∧
        ∀ f, outcome = .error f → f.kind.isA .osError = true) := by
  obtain ⟨outcome, counts, hent, hspared⟩ := enter_eq .remove w
  unfold removeFile
  rcases outcome with f | _
  · exact ⟨_, _, bind_error hent, .of_eq rfl rfl rfl, fun hw => nomatch hspared hw⟩
  rw [bind_ok hent]
  simp only [bind_apply, get_apply, settle_apply, h.remove?]
  -- nothing there, a directory, or a file
  rcases hnode : w.store.node? l with _ | _ | bytes
  · refine ⟨_, _, rfl, .of_eq rfl rfl rfl, fun _ => ⟨hnode, ?_⟩⟩
    rintro f ⟨⟩
    exact system_isA_osError .noSuchFile path
  · exact absurd hnode hfile
  refine ⟨_, _, rfl, ⟨rfl, fun _ hk => hk, sameTree_erase hfile, ?_, ?_⟩, fun _ => ⟨?_, nofun⟩⟩
  · intro k hk
    change (w.store.erase l).node? k = none ↔ _
    rw [node?_erase_of_ne _ (fun hkl => hk (by simp [hkl]))]
  · intro k hk _
    exact node?_erase_of_ne _ (fun hkl => hk (by simp [hkl]))
  · exact node?_erase_self _ _

end TempCall

namespace Drafting

theorem bind_apply (d : Drafting α) (next : α → Drafting β) (t : TempFiles) (w : World) :
    (d >>= next) t w = match d t w with
      | ((.ok a, t'), v) => next a t' v
      | ((.error f, t'), v) => ((.error f, t'), v) := by
  change ExceptT.bindCont next (d t w).1.1 (d t w).1.2 (d t w).2 = _
  rcases d t w with ⟨⟨_ | _, _⟩, _⟩ <;> rfl

/-- An operation that ends well is followed by the next one. -/
theorem bind_ok {d : Drafting α} {next : α → Drafting β} {t t' : TempFiles} {w v : World} {a : α}
    (h : d t w = ((.ok a, t'), v)) : (d >>= next) t w = next a t' v := by
  rw [bind_apply, h]

/-- An operation that fails is followed by nothing. -/
theorem bind_error {d : Drafting α} {next : α → Drafting β} {t t' : TempFiles} {w v : World}
    {f : Failure} (h : d t w = ((.error f, t'), v)) :
    (d >>= next) t w = ((.error f, t'), v) := by
  rw [bind_apply, h]

@[simp] theorem lift_apply (act : Act α) (t : TempFiles) (w : World) :
    lift act t w = (((act w).1, t), (act w).2) := rfl

theorem lift_eq {act : Act α} {t : TempFiles} {w v : World} {outcome : Except Failure α}
    (h : act w = (outcome, v)) : lift act t w = ((outcome, t), v) := by
  rw [lift_apply, h]

@[simp] theorem pure_apply (a : α) (t : TempFiles) (w : World) :
    (pure a : Drafting α) t w = ((.ok a, t), w) := rfl

@[simp] theorem throw_apply (f : Failure) (t : TempFiles) (w : World) :
    (throw f : Drafting α) t w = ((.error f, t), w) := rfl

@[simp] theorem get_apply (t : TempFiles) (w : World) :
    (get : Drafting TempFiles) t w = ((.ok t, t), w) := rfl

@[simp] theorem add_apply (path : Text) (t : TempFiles) (w : World) :
    add path t w = ((.ok (), { t with paths := t.paths ++ [path] }), w) := rfl

/-! ## Writing -/

/-- The directory that temporary files are made in, if it can be told. -/
def directory? (w : World) (t : TempFiles) : Option Text :=
  match t.directory with
  | .null => some w.systemTemp
  | .text d => some d
  | _ => none

/-- Names made from the stem and the suffix are names of files: they go into no other directory and
are neither that directory nor the one above it. -/
structure Plain (stem suffix : Text) : Prop where
  slash_stem : Path.slash ∉ stem
  slash_suffix : Path.slash ∉ suffix
  long : 2 < stem.length

/-- `path` leads to a fresh location `l` in the directory of `t`, where the log is not written, and
all other files are as they were. -/
structure Made (t : TempFiles) (w : World) (path : Text) (l : Location) (v : World) : Prop where
  names : w.store.Names path l
  fresh : w.store.node? l = none
  same : w.SameBut [l] v
  unlogged : ¬ v.logging.WritesAt l
  home : v.systemTemp = w.systemTemp
  below : ∃ d name, directory? w t = some d ∧ path = Path.join d name ∧ Path.slash ∉ name

theorem Plain.of_default {stem suffix : Text} (hstem : stem = TempFiles.defaultStem)
    (hsuffix : Path.slash ∉ suffix) : Plain stem suffix := by
  rw [hstem]
  exact ⟨by decide, hsuffix, by decide⟩

theorem slash_notMem_ofNat (n : Nat) : Path.slash ∉ Text.ofNat n := by
  intro h
  exact absurd (Text.bounds_of_mem_ofNat h).1 (by decide)

/-- `path` leads to a fresh location `l`, where there is a file now that the log does not write to, and
all other files are as they were. -/
structure Created (w : World) (path : Text) (l : Location) (v : World) : Prop where
  taken : Path.refusal? path = none
  leads : w.store.creation? path = .ok l
  fresh : w.store.node? l = none
  file : ∃ content, v.store.node? l = some (.file content)
  same : w.SameBut [l] v
  unlogged : ¬ v.logging.WritesAt l
  home : v.systemTemp = w.systemTemp

theorem created_of_create {w v : World} {path : Text} {l : Location}
    (hmade : w.store.create? path = .ok (v.store, l)) (hf : v.faults = w.faults)
    (hl : v.logging = w.logging.superseded l) (hhome : v.systemTemp = w.systemTemp) :
    Created w path l v := by
  obtain ⟨htaken, hleads, hfresh, hstore⟩ := create?_eq_ok.1 hmade
  -- a log file in whose place the new file came gets no more lines
  have hquiet k (hk : v.logging.WritesAt k) : w.logging.WritesAt k ∧ k ≠ l :=
    Logging.superseded_writesAt (hl ▸ hk)
  refine ⟨htaken, hleads, hfresh, ⟨_, by rw [hstore, node?_put_self]⟩,
    ⟨hf, fun k hk => (hquiet k hk).1, ?_, ?_, ?_⟩, fun hk => (hquiet l hk).2 rfl, hhome⟩
  · rw [hstore]
    exact sameTree_put (by simp [hfresh])
  all_goals
    intro k hk
    rw [hstore, node?_put_of_ne _ (fun h => hk (by simp [h]))]
  exact fun _ => rfl

theorem Created.trans {w v u : World} {path : Text} {l : Location} (h : Created w path l v)
    (h' : v.SameBut [l] u) (hfile : ∃ content, u.store.node? l = some (.file content))
    (hhome : u.systemTemp = v.systemTemp) : Created w path l u :=
  { h with
    file := hfile
    same := h.same.trans h'
    home := hhome.trans h.home
    unlogged := fun hl => h.unlogged (h'.quiet l hl) }

/-- What a path with plain names is good for. -/
theorem Created.made {t : TempFiles} {w v : World} {path suffix : Text} {l : Location} {number : Nat}
    (h : Created w path l v) (hplain : Plain t.stem suffix)
    (hpath : TempCall.path? w.systemTemp t.directory t.stem suffix number = .ok path) :
    Made t w path l v := by
  -- the last name of the path is a plain one, too long to be a dot or two
  obtain ⟨name, hname⟩ : ∃ name, name = t.stem ++ Text.ofNat number ++ suffix := ⟨_, rfl⟩
  have hlong : 2 < name.length := by
    have := hplain.long
    simp only [hname, List.length_append]
    omega
  have hslash : Path.slash ∉ name := by
    simp only [hname, List.mem_append, not_or]
    exact ⟨⟨hplain.slash_stem, slash_notMem_ofNat number⟩, hplain.slash_suffix⟩
  have hbelow : ∃ d, directory? w t = some d ∧ path = Path.join d name := by
    unfold TempCall.path? at hpath
    simp only [← hname] at hpath
    split at hpath <;> rename_i hdir <;> cases hpath
    · exact ⟨_, by rw [directory?, hdir], rfl⟩
    · exact ⟨_, by rw [directory?, hdir], rfl⟩
  obtain ⟨d, hd, rfl⟩ := hbelow
  refine ⟨⟨h.taken, h.leads, name, ?_, ?_, ?_⟩, h.fresh, h.same, h.unlogged, h.home,
    d, name, hd, rfl, hslash⟩
  · exact namesOf_join_getLast? (fun h => by simp [h] at hlong) hslash
  · exact fun h => by simp [h, Path.dot] at hlong
  · exact fun h => by simp [h, Path.dotDot] at hlong

/-- **All that writing a temporary file can do.** It fails and nothing is made; or a path is
registered that leads to a fresh file, whatever became of the content. If that ends well the file holds
the bytes of the content. -/
theorem write_steps (content suffix label : Text) (t : TempFiles) (w : World) :
    (∃ f v, write content suffix label t w = ((.error f, t), v) ∧ w.SameFiles v) ∨
    ∃ outcome path l v number,
      write content suffix label t w = ((outcome, { t with paths := t.paths ++ [path] }), v) ∧
      TempCall.path? w.systemTemp t.directory t.stem suffix number = .ok path ∧
      Created w path l v ∧
      ∀ p, outcome = .ok p → p = path ∧
        ∃ bytes, Utf8.encode? content = .ok bytes ∧ v.store.node? l = some (.file bytes) := by
  unfold write
  simp only [bind_apply, get_apply, lift_apply, attempt_apply]
  rcases TempCall.createFile_cases t.directory t.stem suffix w with
    ⟨f, v, hcreate, hsame⟩ | ⟨path, l, v, number, hcreate, hpath, hmade, hf, hl, hhome⟩
  · exact .inl ⟨_, v, by simp only [hcreate]; rfl, hsame⟩
  -- from here on the path is registered, whatever happens
  have created := created_of_create hmade hf hl hhome
  simp only [hcreate, bind_apply, pure_apply, add_apply, lift_apply, attempt_apply]
  rcases TempCall.fillFile_cases l content v with
    ⟨f, u, hfill, hsame, hhome'⟩ | ⟨bytes, u, hfill, hbytes, hput, hf', hl', hhome'⟩
  · let failure := if f.kind.isA .osError || f.kind.isA .unicodeError then
      failed "failed to write" label f else f
    have hfile : ∃ content, u.store.node? l = some (.file content) := by
      obtain ⟨content, hcontent⟩ := created.file
      exact ⟨content, (hsame.node l (by simp) created.unlogged).trans hcontent⟩
    refine .inr ⟨.error failure, path, l, u, number, ?_, hpath,
      created.trans (hsame.mono (by simp)) hfile hhome', nofun⟩
    simp only [hfill, bind_apply, throw_apply]
    rfl
  have hfile : u.store.node? l = some (.file bytes) := by rw [hput, node?_put_self]
  have hsame : v.SameBut [l] u := by
    refine ⟨hf', fun _ h => hl' ▸ h, ?_, ?_, ?_⟩
    · obtain ⟨content, hcontent⟩ := created.file
      rw [hput]
      exact sameTree_put (by simp [hcontent])
    all_goals
      intro k hk
      rw [hput, node?_put_of_ne _ (fun h => hk (by simp [h]))]
    exact fun _ => rfl
  have hlog := log_sameBut .debug logger
    (("Wrote temp " : Text) ++ label ++ (": " : Text) ++ path) u
  -- the log line about it does not go into the file itself
  have hkept := hlog.node l (by simp) fun h => created.unlogged (hl' ▸ h)
  refine .inr ⟨.ok path, path, l, _, number, ?_, hpath,
    created.trans (hsame.trans (hlog.mono (by simp))) ⟨bytes, hkept.trans hfile⟩ hhome', ?_⟩
  · simp only [hfill, bind_apply, pure_apply, lift_apply]
    rfl
  rintro p ⟨⟩
  exact ⟨rfl, bytes, hbytes, hkept.trans hfile⟩

/-- A file with a plain name is made where its path says, or nothing is made. -/
theorem write_cases (content label : Text) {suffix : Text} {t : TempFiles}
    (hplain : Plain t.stem suffix) (w : World) :
    (∃ f v, write content suffix label t w = ((.error f, t), v) ∧ w.SameFiles v) ∨
    ∃ outcome path l v,
      write content suffix label t w = ((outcome, { t with paths := t.paths ++ [path] }), v) ∧
      Made t w path l v ∧
      ∀ p, outcome = .ok p → p = path ∧
        ∃ bytes, Utf8.encode? content = .ok bytes ∧ v.store.node? l = some (.file bytes) := by
  rcases write_steps content suffix label t w with
    hfailed | ⟨outcome, path, l, v, number, hrun, hpath, hcreated, hok⟩
  · exact .inl hfailed
  · exact .inr ⟨outcome, path, l, v, hrun, hcreated.made hplain hpath, hok⟩

/-! ## Releasing -/

/-- Every path names a location without a directory. -/
def Removable (s : Store) (paths : List Text) : Prop :=
  ∀ path ∈ paths, ∃ l, s.Names path l ∧ s.node? l ≠ some .directory

theorem Removable.mono {s t : Store} {paths : List Text} (h : Removable s paths)
    (ht : SameTree s t) : Removable t paths := by
  intro path hpath
  obtain ⟨l, hl, hnode⟩ := h path hpath
  exact ⟨l, hl.mono ht, fun hdir => hnode ((ht.directory l).1 hdir)⟩

theorem Removable.places_eq {s t : Store} {paths : List Text} (h : Removable s paths)
    (ht : SameTree s t) : t.places paths = s.places paths :=
  Store.places_eq (fun path hpath => (h path hpath).imp fun _ hl => hl.1) ht

/-- Removing the first path: it stops there, which takes a fault set for removing, or goes on with
the others. -/
theorem removeAll_cons {path : Text} {l : Location} (rest : List Text) (w : World)
    (h : w.store.Names path l) (hnode : w.store.node? l ≠ some .directory) :
    (∃ f v, removeAll (path :: rest) w = (.error f, v) ∧ w.SameBut [l] v ∧ ¬ w.Spares .remove) ∨
    ∃ v, removeAll (path :: rest) w = removeAll rest v ∧ w.SameBut [l] v ∧
      (w.Spares .remove → v.store.node? l = none) := by
  obtain ⟨removed, v, hremove, hsame, hgone⟩ := TempCall.removeFile_cases w h hnode
  rcases removed with f | _
  · by_cases hos : f.kind.isA .osError = true
    · -- it is logged and passed over
      have hlog := log_sameBut .debug logger
        (("Could not remove temp artifact " : Text) ++ path ++ (": " : Text) ++ f.message) v
      refine .inr ⟨_, ?_, hsame.trans (hlog.mono (by simp)),
        fun hw => (hlog.vacant l (by simp)).2 (hgone hw).1⟩
      simp only [removeAll, Act.bind_apply, attempt_apply, hremove, hos, if_true]
      rfl
    · refine .inl ⟨f, v, ?_, hsame, fun hw => hos ((hgone hw).2 f rfl)⟩
      simp only [removeAll, Act.bind_apply, attempt_apply, hremove, hos]
      rfl
  · refine .inr ⟨v, ?_, hsame, fun hw => (hgone hw).1⟩
    simp only [removeAll, Act.bind_apply, attempt_apply, hremove]

/-- **Removing registered paths removes what they lead to and nothing else.** If the system removes
files at all, this ends well and nothing is left there. -/
theorem removeAll_cases {paths : List Text} (w : World) (h : Removable w.store paths) :
    ∃ outcome v, removeAll paths w = (outcome, v) ∧ w.SameBut (w.store.places paths) v ∧
      (w.Spares .remove → outcome = .ok () ∧
        ∀ l ∈ w.store.places paths, v.store.node? l = none) := by
  induction paths generalizing w with
  | nil => exact ⟨_, _, rfl, Std.Refl.refl w, fun _ => ⟨rfl, nofun⟩⟩
  | cons path rest ih =>
    obtain ⟨l, hl, hnode⟩ := h path List.mem_cons_self
    have hrest : Removable w.store rest := fun p hp => h p (List.mem_cons_of_mem _ hp)
    have hplaces : w.store.places (path :: rest) = l :: w.store.places rest := by
      simp [places, hl.leads, Except.toOption]
    rw [hplaces]
    rcases removeAll_cons rest w hl hnode with ⟨f, v, hrun, hv, hfault⟩ | ⟨v, hrun, hv, hgone⟩
    · exact ⟨_, v, hrun, hv.mono (by simp), fun hw => absurd hw hfault⟩
    obtain ⟨outcome, u, hall, hu, hdone⟩ := ih v (hrest.mono hv.tree)
    -- the other paths lead where they led before
    rw [hrest.places_eq hv.tree] at hu hdone
    refine ⟨outcome, u, hrun.trans hall, hv.append hu, fun hw => ?_⟩
    obtain ⟨hok, hnone⟩ := hdone (hv.spares hw)
    refine ⟨hok, fun k hk => ?_⟩
    by_cases hkr : k ∈ w.store.places rest
    · exact hnone k hkr
    · -- it was removed already, and nothing else has been put there since
      obtain rfl : k = l := by simpa [hkr] using hk
      exact (hu.vacant k hkr).2 (hgone hw)

/-! ## Drafts -/

/-- A set of files that was begun at `w`: where its paths lead nothing stood then, and `v` differs
from `w` there only. -/
structure Drafted (w : World) (t : TempFiles) (v : World) : Prop where
  names : ∀ path ∈ t.paths, ∃ l, w.store.Names path l ∧ w.store.node? l = none
  same : w.SameBut (w.store.places t.paths) v
  stem : t.stem = TempFiles.defaultStem
  unreleased : t.released = false

namespace Drafted

variable {w v u : World} {t : TempFiles}

theorem none (w : World) (directory : Value) :
    Drafted w (TempFiles.none directory TempFiles.defaultStem) w :=
  ⟨nofun, Std.Refl.refl w, rfl, rfl⟩

theorem trans (h : Drafted w t v) (h' : v.SameFiles u) : Drafted w t u :=
  { h with same := h.same.trans (h'.mono (by simp)) }

/-- Nothing stood before where the files are. -/
theorem vacant (h : Drafted w t v) : ∀ l ∈ w.store.places t.paths, w.store.node? l = Option.none := by
  intro l hl
  obtain ⟨path, hpath, hleads⟩ := mem_places.1 hl
  obtain ⟨k, hk, hnone⟩ := h.names path hpath
  rw [hk.leads] at hleads
  cases hleads
  exact hnone

/-- A fresh file joins the set. -/
theorem made (h : Drafted w t v) {path : Text} {l : Location} (h' : Made t v path l u) :
    Drafted w { t with paths := t.paths ++ [path] } u := by
  have hl : w.store.Names path l := h'.names.mono h.same.tree.symm
  -- nothing stood there before, whether or not it is in the set already
  have hnone : w.store.node? l = Option.none := by
    by_cases hmem : l ∈ w.store.places t.paths
    · exact h.vacant l hmem
    · exact (h.same.vacant l hmem).1 h'.fresh
  refine { h with names := fun p hp => ?_, same := ?_ }
  · rcases List.mem_append.1 hp with hp | hp
    · exact h.names p hp
    · cases List.mem_singleton.1 hp
      exact ⟨l, hl, hnone⟩
  · rw [places_append, hl.places_singleton]
    exact h.same.append h'.same

/-- The paths can be removed in every world with the same directories. -/
theorem removable (h : Drafted w t v) (hu : SameTree w.store u.store) :
    Removable u.store t.paths := by
  intro path hpath
  obtain ⟨l, hl, hnone⟩ := h.names path hpath
  exact ⟨l, hl.mono hu, fun hdir => by simp [(hu.directory l).1 hdir] at hnone⟩

end Drafted

/-- The operation takes drafts to drafts, however it ends. -/
def Drafts (d : Drafting α) : Prop :=
  ∀ {w v : World} {t : TempFiles}, Drafted w t v → Drafted w (d t v).1.2 (d t v).2

namespace Drafts

theorem lift {act : Act α} (h : Within SameFiles act) : Drafts (Drafting.lift act) :=
  fun {_ v _} hd => hd.trans (h v)

theorem pure (a : α) : Drafts (Pure.pure a : Drafting α) := fun hd => hd

theorem bind {d : Drafting α} {next : α → Drafting β} (h : Drafts d)
    (h' : ∀ a, Drafts (next a)) : Drafts (d >>= next) := by
  intro w v t hd
  have hmid := h hd
  rw [bind_apply]
  rcases hrun : d t v with ⟨⟨f | a, t'⟩, u⟩ <;> rw [hrun] at hmid
  · exact hmid
  · exact h' a hmid

theorem write (content label : Text) {suffix : Text} (hsuffix : Path.slash ∉ suffix) :
    Drafts (Drafting.write content suffix label) := by
  intro w v t hd
  have hplain : Plain t.stem suffix := .of_default hd.stem hsuffix
  rcases write_cases content label hplain v with
    ⟨f, u, hrun, hsame⟩ | ⟨outcome, path, l, u, hrun, hmade, -⟩ <;> rw [hrun]
  · exact hd.trans hsame
  · exact hd.made hmade

end Drafts

/-- Releasing for the first time removes every registered path. -/
theorem release_apply {t : TempFiles} (ht : t.released = false) (w : World) :
    t.release w = removeAll t.paths w := by
  simp only [TempFiles.release, TempFiles.run, release, bind_apply, Act.bind_apply, get_apply, ht]
  rfl

/-- **A draft can be released from every world with the same directories.** -/
theorem Drafted.release_cases {w v : World} {t : TempFiles} (h : Drafted w t v) (u : World)
    (hu : SameTree w.store u.store) :
    ∃ outcome z, t.release u = (outcome, z) ∧ u.SameBut (w.store.places t.paths) z ∧
      (u.Spares .remove → outcome = .ok () ∧
        ∀ l ∈ w.store.places t.paths, z.store.node? l = Option.none) := by
  have hrem := h.removable (Store.SameTree.refl w.store)
  rw [release_apply h.unreleased, ← hrem.places_eq hu]
  exact removeAll_cases u (hrem.mono hu)

end Drafting

end CampaignDesk
