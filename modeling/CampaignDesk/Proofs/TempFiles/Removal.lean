import CampaignDesk.Proofs.Obstacles

/-!
# Registered paths are tried one by one

Releasing a set of temporary files tries to remove every registered path in turn. What the system
refuses is logged and passed over, so one path that cannot be removed does not keep the others.

* `Attempt`, `Removals`: the attempts on some paths, each as it came to its turn.
* `Drafting.removeAll_tries`: **if the system refuses with its own errors only, every path is tried
  once, in order, and nothing of that fails.**
* `World.Cleared`: what attempts do to files. `Cleared.append` puts it together from its parts,
  `Cleared.gone_iff` and `Cleared.stays_iff` say **which files are left: those on which every
  attempt was refused.**
-/

namespace CampaignDesk

open Store World Act

namespace World

variable {w v u : World} {l : Location}

/-! ## Faults set for removals -/

/-- The failure set for a call of a kind by its number. -/
def faultAt? (w : World) (call : TempCall) (index : Nat) : Option Failure :=
  (w.faults.find? fun f => f.call = call && f.index = index).map (·.failure)

/-- Every fault set for a removal is an error of the system. -/
def RemovalFaults (w : World) : Prop :=
  ∀ f ∈ w.faults, f.call = .remove → f.failure.kind.isA .osError = true

theorem SystemFaults.removal (h : w.SystemFaults) : w.RemovalFaults := fun f hf _ => h f hf

theorem Spares.removal (h : w.Spares .remove) : w.RemovalFaults :=
  fun f hf hcall => absurd hcall (h f hf)

theorem RemovalFaults.fault? (hw : w.RemovalFaults) {f : Failure}
    (h : w.fault? .remove = some f) : f.kind.isA .osError = true := by
  obtain ⟨fault, hfind, rfl⟩ := Option.map_eq_some_iff.1 h
  have hcall := List.find?_some hfind
  simp only [Bool.and_eq_true, decide_eq_true_eq] at hcall
  exact hw fault (List.mem_of_find?_eq_some hfind) hcall.1

theorem Spares.faultAt? (h : w.Spares .remove) (index : Nat) :
    w.faultAt? .remove index = none := by
  refine Option.map_eq_none_iff.2 (List.find?_eq_none.2 fun f hf => ?_)
  simp [h f hf]

/-! ## Files that stay -/

/-- What stands at `l` stays there, but for lines that the log adds to it. -/
def Keeps (w v : World) (l : Location) : Prop :=
  v.store.node? l = w.store.node? l ∨
  w.logging.WritesAt l ∧ ∃ content more,
    w.store.node? l = some (.file content) ∧ v.store.node? l = some (.file (content ++ more))

namespace Keeps

theorem of_eq (h : v.store.node? l = w.store.node? l) : w.Keeps v l := .inl h

theorem trans (hlog : v.logging = w.logging) (h : w.Keeps v l) (h' : v.Keeps u l) :
    w.Keeps u l := by
  rcases h with h | ⟨hl, content, more, hw, hv⟩
  · rw [Keeps, h, hlog] at h'
    exact h'
  rcases h' with h' | ⟨-, content', more', hv', hu⟩
  · exact .inr ⟨hl, content, more, hw, h'.trans hv⟩
  · -- the lines of both stretches, one after the other
    rw [hv] at hv'
    cases hv'
    exact .inr ⟨hl, content, more ++ more', hw, by rw [hu, List.append_assoc]⟩

theorem eq (h : w.Keeps v l) (hlog : ¬ w.logging.WritesAt l) :
    v.store.node? l = w.store.node? l :=
  h.elim id fun hl => absurd hl.1 hlog

theorem vacant (h : w.Keeps v l) : v.store.node? l = none ↔ w.store.node? l = none := by
  rcases h with h | ⟨-, content, more, hw, hv⟩
  · rw [h]
  · simp [hw, hv]

/-- A file is there afterwards exactly if one was there before. -/
theorem file (h : w.Keeps v l) :
    (∃ content, v.store.node? l = some (.file content)) ↔
      ∃ content, w.store.node? l = some (.file content) := by
  rcases h with h | ⟨-, content, more, hw, hv⟩
  · rw [h]
  · simp [hw, hv]

end Keeps

end World

/-! ## Attempts -/

/-- A path that was tried, and what came of it. -/
structure Attempt where
  path : Text
  outcome : Except Failure Unit

/-- What is logged of an attempt: why it failed, if it did. -/
def Attempt.noted (a : Attempt) : Act Unit :=
  match a.outcome with
  | .ok () => pure ()
  | .error f => Act.log .debug Drafting.logger
      (("Could not remove temp artifact " : Text) ++ a.path ++ (": " : Text) ++ f.message)

/-- The attempts on some paths one after the other, from the world before to the world after. -/
inductive Removals : World → List Attempt → World → Prop
  | done (w : World) : Removals w [] w
  | next {w v u : World} {a : Attempt} {rest : List Attempt} :
    TempCall.removeFile a.path w = (a.outcome, v) → Removals (a.noted v).2 rest u →
    Removals w (a :: rest) u

namespace TempCall

/-- A removal is refused, or the file that the path names is gone. -/
theorem removeFile_apply (path : Text) (w : World) :
    removeFile path w = match w.fault? .remove with
      | some f => (.error f, w.counted .remove)
      | none => match w.store.remove? path with
        | .error f => (.error f, w.counted .remove)
        | .ok store => (.ok (), { w.counted .remove with store := store }) := by
  unfold removeFile
  rw [bind_apply, enter_apply]
  rcases w.fault? .remove with _ | f
  · simp only [outcomeOf, bind_apply, get_apply, settle_apply, World.counted_store]
    rcases w.store.remove? path with f | store <;> rfl
  · rfl

theorem removeFile_error {path : Text} {w : World} {f : Failure} (hw : w.RemovalFaults)
    (hpath : path.Clean) (h : (removeFile path w).1 = .error f) : f.kind.isA .osError = true := by
  rw [removeFile_apply] at h
  rcases hfault : w.fault? .remove with _ | g <;> simp only [hfault] at h
  · rcases hgone : w.store.remove? path with g | store <;> rw [hgone] at h <;> cases h
    exact Store.guarded_isA (Path.refusal?_eq_none.2 hpath) hgone
  · cases h
    exact hw.fault? hfault

theorem removeFile_faults (path : Text) (w : World) :
    (removeFile path w).2.faults = w.faults := by
  rw [removeFile_apply]
  rcases w.fault? .remove with _ | g
  · simp only
    rcases w.store.remove? path with g | store <;> rfl
  · rfl

end TempCall

theorem Attempt.noted_apply (a : Attempt) (w : World) :
    (a.noted w).1 = .ok () ∧ (a.noted w).2.faults = w.faults := by
  unfold noted
  rcases a.outcome with f | _ <;> exact ⟨rfl, rfl⟩

namespace Drafting

/-- **If the system refuses with its own errors only, every path is tried once, in order, and nothing
of that fails.** -/
theorem removeAll_tries {paths : List Text} {w : World} (hw : w.RemovalFaults)
    (hpaths : ∀ path ∈ paths, path.Clean) :
    ∃ attempts v, removeAll paths w = (.ok (), v) ∧ attempts.map Attempt.path = paths ∧
      Removals w attempts v ∧
      ∀ a ∈ attempts, ∀ f, a.outcome = .error f → f.kind.isA .osError = true := by
  induction paths generalizing w with
  | nil => exact ⟨[], w, rfl, rfl, .done w, nofun⟩
  | cons path rest ih =>
    obtain ⟨hpath, hrest⟩ := List.forall_mem_cons.1 hpaths
    obtain ⟨a, v, hpa, hrun⟩ : ∃ a : Attempt, ∃ v, a.path = path ∧
        TempCall.removeFile path w = (a.outcome, v) := ⟨⟨path, _⟩, _, rfl, rfl⟩
    have hos : ∀ f, a.outcome = .error f → f.kind.isA .osError = true := by
      intro f hf
      exact TempCall.removeFile_error hw hpath (by rw [hrun]; exact hf)
    -- the first path is tried, and what came of it is noted
    have hstep : removeAll (path :: rest) w = removeAll rest (a.noted v).2 := by
      simp only [removeAll, Act.bind_apply, attempt_apply, hrun, Attempt.noted]
      rcases ha : a.outcome with f | _
      · simp only [hos f ha, if_true, Act.bind_apply, hpa]
        rfl
      · rfl
    have hfaults : (a.noted v).2.faults = w.faults := by
      rw [(a.noted_apply v).2, ← TempCall.removeFile_faults path w, hrun]
    have hnext : (a.noted v).2.RemovalFaults := fun f hf => hw f (hfaults ▸ hf)
    obtain ⟨attempts, u, hall, hmap, htried, hothers⟩ := ih hnext hrest
    refine ⟨a :: attempts, u, hstep.trans hall, ?_, .next (hpa ▸ hrun) htried, ?_⟩
    · rw [List.map_cons, hpa, hmap]
    · exact List.forall_mem_cons.2 ⟨hos, hothers⟩

/-- The system takes the paths of a draft. -/
theorem Drafted.clean {w v : World} {t : TempFiles} (h : Drafted w t v) :
    ∀ path ∈ t.paths, path.Clean := by
  intro path hpath
  obtain ⟨l, hl, -⟩ := h.names path hpath
  exact Path.refusal?_eq_none.1 hl.taken

/-- **The first release tries every registered path**, and ends well. -/
theorem release_tries {t : TempFiles} {w : World} (ht : t.released = false) (hw : w.RemovalFaults)
    (hpaths : ∀ path ∈ t.paths, path.Clean) :
    ∃ attempts v, Drafting.release t w = ((.ok (), { t with released := true }), v) ∧
      t.release w = (.ok (), v) ∧ attempts.map Attempt.path = t.paths ∧ Removals w attempts v ∧
      ∀ a ∈ attempts, ∀ f, a.outcome = .error f → f.kind.isA .osError = true := by
  obtain ⟨attempts, v, hrun, hmap, htried, hos⟩ := removeAll_tries hw hpaths
  refine ⟨attempts, v, ?_, (release_apply ht w).trans hrun, hmap, htried, hos⟩
  have hfirst : Drafting.release t w =
      (((removeAll t.paths w).1, { t with released := true }), (removeAll t.paths w).2) := by
    simp only [Drafting.release, bind_apply, get_apply, ht]
    rfl
  rw [hfirst, hrun]

theorem release_ok {t : TempFiles} {w : World} (ht : t.released = false) (hw : w.RemovalFaults)
    (hpaths : ∀ path ∈ t.paths, path.Clean) : (t.release w).1 = .ok () := by
  obtain ⟨_, _, -, hrun, -⟩ := release_tries ht hw hpaths
  rw [hrun]

end Drafting

/-! ## What attempts do to files -/

namespace World

/-- What attempts on some paths do to the files of a world: **a file is gone if one attempt on it
succeeded, and else it stays.** An attempt succeeds only if no fault is set for it, and if none is,
then at the latest this attempt removes the file. -/
structure Cleared (w : World) (attempts : List Attempt) (v : World) : Prop where
  faults : v.faults = w.faults
  logging : v.logging = w.logging
  tree : SameTree w.store v.store
  counts : v.counts .remove = w.counts .remove + attempts.length
  gone : ∀ l, (∃ a ∈ attempts, a.outcome = .ok () ∧ w.store.Names a.path l) →
    v.store.node? l = none
  kept : ∀ l, (¬ ∃ a ∈ attempts, a.outcome = .ok () ∧ w.store.Names a.path l) → w.Keeps v l
  refused : ∀ i a, attempts[i]? = some a → a.outcome = .ok () →
    w.faultAt? .remove (w.counts .remove + i + 1) = none
  spared : ∀ l content, w.store.node? l = some (.file content) → ∀ i a, attempts[i]? = some a →
    w.store.Names a.path l → w.faultAt? .remove (w.counts .remove + i + 1) = none →
    ∃ b ∈ attempts, b.outcome = .ok () ∧ w.store.Names b.path l

namespace Cleared

variable {w v u : World} {attempts more : List Attempt} {l : Location}

theorem refl (w : World) : w.Cleared [] w :=
  ⟨rfl, rfl, .refl w.store, rfl, nofun, fun _ _ => .of_eq rfl, nofun, nofun⟩

/-- Where nothing stands nothing comes up. -/
theorem vacant (h : w.Cleared attempts v) (hl : w.store.node? l = none) :
    v.store.node? l = none := by
  by_cases hsome : ∃ a ∈ attempts, a.outcome = .ok () ∧ w.store.Names a.path l
  · exact h.gone l hsome
  · exact (h.kept l hsome).vacant.2 hl

/-- Where no file stands attempts change nothing. -/
theorem unfiled (h : w.Cleared attempts v) (hl : ∀ content, w.store.node? l ≠ some (.file content)) :
    v.store.node? l = w.store.node? l := by
  rcases hnode : w.store.node? l with _ | _ | content
  · exact h.vacant hnode
  · exact (h.tree.directory l).2 hnode
  · exact absurd hnode (hl content)

theorem append (h : w.Cleared attempts v) (h' : v.Cleared more u) :
    w.Cleared (attempts ++ more) u := by
  -- paths name the same locations all the way
  have hnames (a : Attempt) (l : Location) : v.store.Names a.path l ↔ w.store.Names a.path l :=
    ⟨fun hn => hn.mono h.tree.symm, fun hn => hn.mono h.tree⟩
  have hfault (i : Nat) : v.faultAt? .remove (v.counts .remove + i + 1) =
      w.faultAt? .remove (w.counts .remove + (attempts.length + i) + 1) := by
    rw [faultAt?, h.faults, h.counts, faultAt?, ← Nat.add_assoc]
  refine ⟨h'.faults.trans h.faults, h'.logging.trans h.logging, h.tree.trans h'.tree, ?_, ?_, ?_,
    ?_, ?_⟩
  · rw [h'.counts, h.counts, List.length_append, Nat.add_assoc]
  · rintro l ⟨a, ha, hok, hn⟩
    rcases List.mem_append.1 ha with ha | ha
    · exact h'.vacant (h.gone l ⟨a, ha, hok, hn⟩)
    · exact h'.gone l ⟨a, ha, hok, (hnames a l).2 hn⟩
  · intro l hnone
    refine (h.kept l ?_).trans h.logging (h'.kept l ?_)
    · rintro ⟨a, ha, hok, hn⟩
      exact hnone ⟨a, List.mem_append_left _ ha, hok, hn⟩
    · rintro ⟨a, ha, hok, hn⟩
      exact hnone ⟨a, List.mem_append_right _ ha, hok, (hnames a l).1 hn⟩
  · intro i a hi hok
    by_cases hlt : i < attempts.length
    · rw [List.getElem?_append_left hlt] at hi
      exact h.refused i a hi hok
    · rw [List.getElem?_append_right (by omega)] at hi
      have hfree := h'.refused _ a hi hok
      rw [hfault] at hfree
      rwa [show attempts.length + (i - attempts.length) = i by omega] at hfree
  · intro l content hfile i a hi hn hfree
    by_cases hearlier : ∃ b ∈ attempts, b.outcome = .ok () ∧ w.store.Names b.path l
    · obtain ⟨b, hb, hok, hnb⟩ := hearlier
      exact ⟨b, List.mem_append_left _ hb, hok, hnb⟩
    -- the file is still there when the later attempts begin
    obtain ⟨content', hfile'⟩ := (h.kept l hearlier).file.2 ⟨content, hfile⟩
    by_cases hlt : i < attempts.length
    · rw [List.getElem?_append_left hlt] at hi
      exact absurd (h.spared l content hfile i a hi hn hfree) hearlier
    · rw [List.getElem?_append_right (by omega)] at hi
      have hfree' : v.faultAt? .remove (v.counts .remove + (i - attempts.length) + 1) = none := by
        rw [hfault, show attempts.length + (i - attempts.length) = i by omega]
        exact hfree
      obtain ⟨b, hb, hok, hnb⟩ :=
        h'.spared l content' hfile' _ a hi ((hnames a l).2 hn) hfree'
      exact ⟨b, List.mem_append_right _ hb, hok, (hnames b l).1 hnb⟩

instance : Std.Refl (fun w v => Cleared w [] v) := ⟨refl⟩

instance : Trans (fun w v => Cleared w [] v) (fun w v => Cleared w [] v)
    (fun w v => Cleared w [] v) := ⟨fun h h' => h.append h'⟩

/-- **A file is left exactly if every attempt on it failed.** -/
theorem stays_iff (h : w.Cleared attempts v) {content : Bytes}
    (hl : w.store.node? l = some (.file content)) :
    (∃ content', v.store.node? l = some (.file content')) ↔
      ∀ a ∈ attempts, w.store.Names a.path l → ∃ f, a.outcome = .error f := by
  constructor
  · rintro ⟨content', hfile⟩ a ha hn
    rcases hout : a.outcome with f | _
    · exact ⟨f, rfl⟩
    · rw [h.gone l ⟨a, ha, hout, hn⟩] at hfile
      cases hfile
  · intro hfailed
    refine (h.kept l ?_).file.2 ⟨content, hl⟩
    rintro ⟨a, ha, hok, hn⟩
    obtain ⟨f, hf⟩ := hfailed a ha hn
    rw [hok] at hf
    cases hf

/-- **A file is gone exactly if some path names it whose turn comes without a fault.** -/
theorem gone_iff (h : w.Cleared attempts v) {content : Bytes}
    (hl : w.store.node? l = some (.file content)) :
    v.store.node? l = none ↔ ∃ i path, (attempts.map Attempt.path)[i]? = some path ∧
      w.store.Names path l ∧ w.faultAt? .remove (w.counts .remove + i + 1) = none := by
  constructor
  · intro hnone
    by_cases hsome : ∃ a ∈ attempts, a.outcome = .ok () ∧ w.store.Names a.path l
    · obtain ⟨a, ha, hok, hn⟩ := hsome
      obtain ⟨i, hi⟩ := List.getElem?_of_mem ha
      exact ⟨i, a.path, by rw [List.getElem?_map, hi]; rfl, hn, h.refused i a hi hok⟩
    · have hfile := (h.kept l hsome).vacant.1 hnone
      rw [hl] at hfile
      cases hfile
  · rintro ⟨i, path, hi, hn, hfree⟩
    rw [List.getElem?_map] at hi
    obtain ⟨a, ha, rfl⟩ := Option.map_eq_some_iff.1 hi
    exact h.gone l (h.spared l content hl i a ha hn hfree)

end Cleared

/-- A log record tries no path. -/
theorem note_cleared (r : Record) : Within (fun w v => w.Cleared [] v) (Act.note r) := by
  intro w
  refine ⟨rfl, rfl, Logging.traces_sameTree r _ w.now, rfl, nofun, fun l _ => ?_, nofun, nofun⟩
  refine Logging.traces_induction r _ w.now (P := fun t => w.Keeps { w with store := t } l) (.of_eq rfl)
    fun t k content bytes ht hk hcontent => ?_
  by_cases hlk : l = k
  · subst hlk
    exact .trans (v := { w with store := t }) rfl ht
      (.inr ⟨hk, content, bytes, hcontent, node?_put_self _ _ _⟩)
  · exact .trans (v := { w with store := t }) rfl ht (.of_eq (node?_put_of_ne _ hlk _))

end World

/-- One attempt. -/
theorem Attempt.cleared {a : Attempt} {w v : World}
    (h : TempCall.removeFile a.path w = (a.outcome, v)) : w.Cleared [a] v := by
  rw [TempCall.removeFile_apply] at h
  have hindex {i : Nat} {b : Attempt} (hi : [a][i]? = some b) : i = 0 ∧ b = a := by
    rcases i with _ | i
    · exact ⟨rfl, (Option.some.inj hi).symm⟩
    · simp at hi
  have hzero : w.faultAt? .remove (w.counts .remove + 0 + 1) = w.fault? .remove := rfl
  -- whatever refuses it, the files stay
  have hfails {f : Failure} (hrun : (Except.error f, w.counted .remove) = (a.outcome, v))
      (hnot : ∀ l content, w.store.Names a.path l → w.store.node? l = some (.file content) →
        w.fault? .remove ≠ none) : w.Cleared [a] v := by
    have hout : a.outcome = .error f := (congrArg Prod.fst hrun).symm
    obtain rfl : w.counted .remove = v := congrArg Prod.snd hrun
    have hnone (b : Attempt) (hb : b ∈ [a]) : b.outcome ≠ .ok () := by
      rw [List.mem_singleton.1 hb, hout]
      exact nofun
    refine ⟨rfl, rfl, .refl w.store, World.counted_self w .remove,
      fun l ⟨b, hb, hok, _⟩ => absurd hok (hnone b hb), fun l _ => .of_eq rfl,
      fun i b hi hok => absurd hok (hnone b (List.mem_of_getElem? hi)), ?_⟩
    intro l content hfile i b hi hn hfree
    obtain ⟨rfl, rfl⟩ := hindex hi
    exact absurd hfree (hnot l content hn hfile)
  rcases hfault : w.fault? .remove with _ | f <;> simp only [hfault] at h
  · rcases hgone : w.store.remove? a.path with f | store <;> rw [hgone] at h
    · refine hfails h fun l content hn hfile => ?_
      rw [remove?_eq_ok.2 ⟨l, content, hn, hfile, rfl⟩] at hgone
      cases hgone
    · -- the file that the path names is erased, and no other one
      obtain ⟨l, content, hn, hfile, rfl⟩ := remove?_eq_ok.1 hgone
      have hout : a.outcome = .ok () := (congrArg Prod.fst h).symm
      obtain rfl := congrArg Prod.snd h
      have hdir : w.store.node? l ≠ some .directory := by simp [hfile]
      refine ⟨rfl, rfl, sameTree_erase hdir, World.counted_self w .remove, ?_, ?_, ?_, ?_⟩
      · rintro k ⟨b, hb, -, hk⟩
        rw [List.mem_singleton.1 hb] at hk
        obtain rfl := hk.unique hn
        exact node?_erase_self _ _
      · intro k hk
        have hne : k ≠ l := by
          rintro rfl
          exact hk ⟨a, List.mem_singleton_self a, hout, hn⟩
        exact .of_eq (node?_erase_of_ne _ hne)
      · intro i b hi _
        obtain ⟨rfl, rfl⟩ := hindex hi
        exact hzero.trans hfault
      · intro k _ _ i b hi hk _
        obtain ⟨rfl, rfl⟩ := hindex hi
        exact ⟨b, List.mem_singleton_self b, hout, hk⟩
  · exact hfails h fun _ _ _ _ => by rw [hfault]; exact nofun

theorem Attempt.noted_cleared (a : Attempt) : Within (fun w v => w.Cleared [] v) a.noted := by
  unfold noted
  rcases a.outcome with f | _
  · exact note_cleared _
  · exact .pure _

/-- **Attempts clear what they succeed on**, by induction on the attempts. -/
theorem Removals.cleared {w v : World} {attempts : List Attempt} (h : Removals w attempts v) :
    w.Cleared attempts v := by
  induction h with
  | done w => exact .refl w
  | next hrun hrest ih => exact ((Attempt.cleared hrun).append (Attempt.noted_cleared _ _)).append ih

end CampaignDesk
