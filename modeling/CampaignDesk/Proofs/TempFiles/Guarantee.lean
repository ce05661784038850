import CampaignDesk.Proofs.Store.Change
import CampaignDesk.Proofs.TempFiles.History

/-!
# What releasing guarantees

Whoever uses a set of temporary files counts on two things: releasing it never fails, and no file that was
written stays. Both hold as long as the system takes every path that is registered and the set is released
once and for all. A path with a zero or without bytes ends the first release with its refusal, and nothing
that comes after the first release is removed by a later one.

* `Drafting.release_stops`: **the first release tries the paths up to the first one that is refused.**
* `stateAt`, `Makes`: the set and the world after some steps of a history, and the steps that write a file.
  `stateAt_induct` is the one induction over them, `apply_level`, `apply_holds` and `apply_vacant` are what
  one step keeps.
* `FirstRelease.comes_to`: what a history with a first release comes to.
* `Thorough`: no release fails, and none leaves a file that was written before it.
  `releasing_is_thorough_iff` says **for which histories this is so.**
-/

namespace CampaignDesk

open Store World Act

/-- What comes up does so where files may differ. -/
theorem World.SameBut.eq_of_appears {w v : World} {k l : Location} (h : w.SameBut [k] v)
    (hw : w.store.node? l = none) (hv : v.store.node? l ≠ none) : l = k :=
  Classical.byContradiction fun hne => hv ((h.vacant l (by simpa using hne)).2 hw)

namespace Drafting

/-! ## The first release, whatever paths are registered -/

theorem removeAll_append (paths more : List Text) (w : World) :
    removeAll (paths ++ more) w = match removeAll paths w with
      | (.ok (), v) => removeAll more v
      | (.error f, v) => (.error f, v) := by
  induction paths generalizing w with
  | nil => rfl
  | cons path rest ih =>
    simp only [List.cons_append, removeAll, Act.bind_apply, attempt_apply]
    rcases TempCall.removeFile path w with ⟨f | _, v⟩
    · by_cases hos : f.kind.isA .osError = true
      · simp only [hos, if_true, Act.bind_apply]
        exact ih _
      · simp only [hos]
        rfl
    · exact ih v

/-- A path that the system does not take ends the removals with its refusal. -/
theorem removeAll_refused {path : Text} {f : Failure} (h : Path.refusal? path = some f)
    (rest : List Text) {w : World} (hw : w.Spares .remove) :
    removeAll (path :: rest) w = (.error f, w.counted .remove) := by
  have hfree : w.fault? .remove = none := hw.faultAt? _
  have hremove : w.store.remove? path = .error f := by
    rw [Store.remove?, Store.guarded, h]
  have hos : f.kind.isA .osError = false := Path.refusal?_isA h
  simp only [removeAll, Act.bind_apply, attempt_apply, TempCall.removeFile_apply, hfree, hremove, hos]
  rfl

/-- The paths before the first one that the system does not take. -/
def takenPaths (paths : List Text) : List Text :=
  paths.takeWhile fun path => (Path.refusal? path).isNone

/-- The refusal of the first path that the system does not take. -/
def firstRefusal? (paths : List Text) : Option Failure := paths.findSome? Path.refusal?

theorem clean_of_mem_takenPaths {paths : List Text} {path : Text} (h : path ∈ takenPaths paths) :
    path.Clean := by
  have htaken := List.all_eq_true.1 (List.all_takeWhile (l := paths)) path h
  exact Path.refusal?_eq_none.1 (Option.isNone_iff_eq_none.1 htaken)

/-- The paths up to a refusal, and what comes of the others: nothing if all are taken. -/
theorem takenPaths_cases (paths : List Text) :
    (firstRefusal? paths = none ∧ takenPaths paths = paths) ∨
    ∃ f path rest, firstRefusal? paths = some f ∧ Path.refusal? path = some f ∧
      paths = takenPaths paths ++ path :: rest := by
  induction paths with
  | nil => exact .inl ⟨rfl, rfl⟩
  | cons path rest ih =>
    unfold firstRefusal? takenPaths at ih ⊢
    rcases hrefused : Path.refusal? path with _ | f
    · rw [List.findSome?_cons, hrefused, List.takeWhile_cons_of_pos (by rw [hrefused]; rfl)]
      rcases ih with ⟨hnone, hall⟩ | ⟨f, bad, more, hfirst, hbad, hsplit⟩
      · exact .inl ⟨hnone, by rw [hall]⟩
      · exact .inr ⟨f, bad, more, hfirst, hbad, congrArg (path :: ·) hsplit⟩
    · rw [List.findSome?_cons, hrefused, List.takeWhile_cons_of_neg (by rw [hrefused]; exact nofun)]
      exact .inr ⟨f, path, rest, rfl, hrefused, rfl⟩

/-- What the first release of a set does if no removal is made to fail: it tries the paths before the
first one that the system does not take, and ends with the refusal of that path if there is one. -/
structure Stopped (t : TempFiles) (w v : World) : Prop where
  faults : v.faults = w.faults
  tree : SameTree w.store v.store
  gone : ∀ l content, w.store.node? l = some (.file content) →
    (v.store.node? l = none ↔ ∃ path ∈ takenPaths t.paths, w.store.Names path l)

theorem release_stops {t : TempFiles} {w : World} (ht : t.released = false)
    (hw : w.Spares .remove) :
    ∃ v, release t w = ((outcomeOf (firstRefusal? t.paths), { t with released := true }), v) ∧
      Stopped t w v := by
  have htaken : ∀ path ∈ takenPaths t.paths, path.Clean := fun _ => clean_of_mem_takenPaths
  obtain ⟨attempts, u, hrun, hmap, htried, -⟩ := removeAll_tries hw.removal htaken
  have hcleared := htried.cleared
  have hstopped : Stopped t w u := by
    refine ⟨hcleared.faults, hcleared.tree, fun l content hl => ?_⟩
    rw [hcleared.gone_iff hl, hmap]
    constructor
    · rintro ⟨i, path, hi, hn, -⟩
      exact ⟨path, List.mem_of_getElem? hi, hn⟩
    · rintro ⟨path, hpath, hn⟩
      obtain ⟨i, hi⟩ := List.getElem?_of_mem hpath
      exact ⟨i, path, hi, hn, hw.faultAt? _⟩
  have hrelease : release t w =
      (((removeAll t.paths w).1, { t with released := true }), (removeAll t.paths w).2) := by
    simp only [release, bind_apply, get_apply, ht]
    rfl
  rw [hrelease]
  rcases takenPaths_cases t.paths with ⟨hnone, hall⟩ | ⟨f, path, rest, hfirst, hbad, hsplit⟩
  · rw [hall] at hrun
    exact ⟨u, by rw [hrun, hnone]; rfl, hstopped⟩
  · have hu : u.Spares .remove := fun g hg => hw g (hcleared.faults ▸ hg)
    refine ⟨u.counted .remove, ?_, ⟨hstopped.faults, hstopped.tree, hstopped.gone⟩⟩
    rw [hsplit, removeAll_append, hrun, ← hsplit, hfirst]
    simp only [removeAll_refused hbad rest hu]
    rfl

/-! ## Histories step by step -/

/-- The set and the world after the first `n` steps of a history. -/
def stateAt (history : List Doing) (start : TempFiles × World) (n : Nat) : TempFiles × World :=
  after (history.take n) start

variable {history : List Doing} {start : TempFiles × World}

theorem stateAt_succ {n : Nat} {doing : Doing} (h : history[n]? = some doing) :
    stateAt history start (n + 1) = doing.apply (stateAt history start n) := by
  rw [stateAt, List.take_add_one, h, Option.toList_some, after_append]
  rfl

/-- Beyond its end a history goes on without a step. -/
theorem stateAt_end {n : Nat} (h : history[n]? = none) :
    stateAt history start (n + 1) = stateAt history start n := by
  rw [stateAt, List.take_add_one, h, Option.toList_none, List.append_nil]
  rfl

/-- What holds at some point of a history holds at a later one, if the steps in between keep it. -/
theorem stateAt_induct {P : TempFiles × World → Prop} {i j : Nat} (hij : i ≤ j)
    (h : P (stateAt history start i))
    (hstep : ∀ n doing, i ≤ n → n < j → history[n]? = some doing → P (stateAt history start n) →
      P (doing.apply (stateAt history start n))) : P (stateAt history start j) := by
  induction j with
  | zero =>
    obtain rfl : i = 0 := by omega
    exact h
  | succ j ih =>
    rcases Nat.eq_or_lt_of_le hij with rfl | hlt
    · exact h
    have hj : P (stateAt history start j) :=
      ih (by omega) fun n doing hin hnj => hstep n doing hin (by omega)
    rcases hdoing : history[j]? with _ | doing
    · rw [stateAt_end hdoing]
      exact hj
    · rw [stateAt_succ hdoing]
      exact hstep j doing (by omega) (by omega) hdoing hj

/-- Step `k` is the first release of a history. -/
def FirstRelease (history : List Doing) (k : Nat) : Prop :=
  history[k]? = some .release ∧ ∀ i < k, history[i]? ≠ some .release

theorem exists_firstRelease {j : Nat} (h : history[j]? = some .release) :
    ∃ k ≤ j, FirstRelease history k := by
  induction j using Nat.strongRecOn with
  | ind j ih =>
    by_cases hfirst : ∀ i < j, history[i]? ≠ some .release
    · exact ⟨j, Nat.le_refl j, h, hfirst⟩
    · obtain ⟨i, hi, hrelease⟩ : ∃ i < j, history[i]? = some .release := by
        simpa using hfirst
      obtain ⟨k, hk, hfirst⟩ := ih i hi hrelease
      exact ⟨k, by omega, hfirst⟩

/-- Step `i` of a history writes a file, which stands at `l` then. -/
def Makes (history : List Doing) (start : TempFiles × World) (i : Nat) (l : Location) : Prop :=
  ∃ content suffix label path, history[i]? = some (.write content suffix label) ∧
    Created (stateAt history start i).2 path l (stateAt history start (i + 1)).2

/-! ## What one step does to files -/

/-- The step is one of the set itself, and nobody else does anything. -/
def Doing.Own (doing : Doing) : Prop := ∀ change, doing ≠ .meanwhile change

/-- Anything but a release leaves a set as released as it was. -/
theorem apply_released_eq {doing : Doing} (h : doing ≠ .release) (s : TempFiles × World) :
    (doing.apply s).1.released = s.1.released := by
  cases doing with
  | add path => rfl
  | write content suffix label =>
    rcases write_paths content suffix label s with hsame | ⟨path, -, hadd⟩
    · rw [hsame]
    · rw [hadd]
  | release => exact absurd rfl h
  | meanwhile change => rfl

/-- The directories stay where they are, and no removal is made to fail that was not before. -/
theorem apply_level {doing : Doing} (hown : doing.Own) {s : TempFiles × World}
    (hs : s.2.Spares .remove) :
    SameTree s.2.store (doing.apply s).2.store ∧ (doing.apply s).2.Spares .remove := by
  obtain ⟨t, w⟩ := s
  have hspares {v : World} (hv : v.faults = w.faults) : v.Spares .remove := fun f hf => hs f (hv ▸ hf)
  cases doing with
  | add path => exact ⟨.refl w.store, hs⟩
  | write content suffix label =>
    simp only [Doing.apply, leaves]
    rcases write_steps content suffix label t w with
      ⟨f, v, hrun, hsame⟩ | ⟨outcome, path, l, v, number, hrun, -, hcreated, -⟩ <;> rw [hrun]
    · exact ⟨hsame.tree, hspares hsame.faults⟩
    · exact ⟨hcreated.same.tree, hspares hcreated.same.faults⟩
  | release =>
    simp only [Doing.apply, leaves]
    rcases ht : t.released with _ | _
    · obtain ⟨v, hrun, hstopped⟩ := release_stops ht hs
      rw [hrun]
      exact ⟨hstopped.tree, hspares hstopped.faults⟩
    · rw [release_again ht]
      exact ⟨.refl w.store, hs⟩
  | meanwhile change => exact absurd rfl (hown change)

/-- A file stays as it is, unless a set is released that was not before. -/
theorem apply_holds {doing : Doing} (hown : doing.Own) {s : TempFiles × World}
    (hreleased : doing = .release → s.1.released = true) {l : Location} {content : Bytes}
    (h : s.2.Holds l content) : (doing.apply s).2.Holds l content := by
  obtain ⟨t, w⟩ := s
  cases doing with
  | add path => exact h
  | write text suffix label =>
    simp only [Doing.apply, leaves]
    rcases write_steps text suffix label t w with
      ⟨f, v, hrun, hsame⟩ | ⟨outcome, path, k, v, number, hrun, -, hcreated, -⟩ <;> rw [hrun]
    · exact h.sameBut hsame (by simp)
    · -- the new file is somewhere else
      refine h.sameBut hcreated.same fun hl => ?_
      have hnone := hcreated.fresh
      rw [← List.mem_singleton.1 hl, h.node] at hnone
      cases hnone
  | release =>
    simp only [Doing.apply, leaves, release_again (hreleased rfl)]
    exact h
  | meanwhile change => exact absurd rfl (hown change)

/-- Where nothing stands nothing comes up, unless a file is written there. -/
theorem apply_vacant {doing : Doing} (hown : doing.Own) {s : TempFiles × World}
    (hreleased : doing = .release → s.1.released = true) {l : Location}
    (hunmade : ∀ content suffix label path, doing = .write content suffix label →
      ¬ Created s.2 path l (doing.apply s).2)
    (h : s.2.store.node? l = none) : (doing.apply s).2.store.node? l = none := by
  obtain ⟨t, w⟩ := s
  cases doing with
  | add path => exact h
  | write content suffix label =>
    have hunmade path := hunmade content suffix label path rfl
    simp only [Doing.apply, leaves] at hunmade ⊢
    rcases write_steps content suffix label t w with
      ⟨f, v, hrun, hsame⟩ | ⟨outcome, path, k, v, number, hrun, -, hcreated, -⟩ <;>
      rw [hrun] at hunmade ⊢
    · exact (hsame.vacant l (by simp)).2 h
    · refine (hcreated.same.vacant l fun hl => ?_).2 h
      rw [List.mem_singleton.1 hl] at hunmade
      exact hunmade path hcreated
  | release =>
    simp only [Doing.apply, leaves, release_again (hreleased rfl)]
    exact h
  | meanwhile change => exact absurd rfl (hown change)

/-! ## What a whole history comes to -/

section history

variable {start : TempFiles × World} {history : List Doing} {i j k n : Nat} {l : Location}

theorem stateAt_level (hown : ∀ doing ∈ history, doing.Own) (hw : start.2.Spares .remove) (n : Nat) :
    SameTree start.2.store (stateAt history start n).2.store ∧
      (stateAt history start n).2.Spares .remove := by
  refine stateAt_induct (P := fun s => SameTree start.2.store s.2.store ∧ s.2.Spares .remove)
    (Nat.zero_le n) ⟨.refl _, hw⟩ fun m doing _ _ hdoing hm => ?_
  obtain ⟨htree, hspares⟩ := apply_level (hown doing (List.mem_of_getElem? hdoing)) hm.2
  exact ⟨hm.1.trans htree, hspares⟩

theorem FirstRelease.released_before (hk : FirstRelease history k) (hstart : start.1.released = false)
    (hn : n ≤ k) : (stateAt history start n).1.released = false := by
  refine stateAt_induct (P := fun s => s.1.released = false) (Nat.zero_le n) hstart
    fun m doing _ hm hdoing hreleased => ?_
  have hother : doing ≠ .release := by
    rintro rfl
    exact hk.2 m (by omega) hdoing
  rw [apply_released_eq hother, hreleased]

theorem FirstRelease.released_after (hk : FirstRelease history k) (hn : k < n) :
    (stateAt history start n).1.released = true := by
  refine stateAt_induct (P := fun s => s.1.released = true) hn ?_
    fun m doing _ _ _ hreleased => apply_released hreleased doing
  rw [stateAt_succ hk.1]
  generalize stateAt history start k = s
  obtain ⟨t, w⟩ := s
  simp only [Doing.apply, leaves, release, bind_apply, get_apply]
  rcases ht : t.released with _ | _
  · rfl
  · exact ht

/-- A file that is written is there, and a path is registered that names it. -/
theorem Makes.made (h : Makes history start i l) :
    (∃ content, (stateAt history start (i + 1)).2.Holds l content) ∧
    ∃ path ∈ (stateAt history start (i + 1)).1.paths,
      Created (stateAt history start i).2 path l (stateAt history start (i + 1)).2 := by
  obtain ⟨content, suffix, label, path, hdoing, hcreated⟩ := h
  obtain ⟨bytes, hfile⟩ := hcreated.file
  refine ⟨⟨bytes, hfile, hcreated.unlogged⟩, ?_⟩
  have hregistered := registered_write content suffix label (stateAt history start i)
  rw [← stateAt_succ hdoing] at hregistered
  rcases hregistered with ⟨-, -, hsame⟩ | ⟨path', l', hpaths, hcreated'⟩
  · -- if nothing had been made there would be no file
    have hnone := (hsame.vacant l (by simp)).2 hcreated.fresh
    rw [hfile] at hnone
    cases hnone
  · have hl : l = l' := hcreated'.same.eq_of_appears hcreated.fresh (by rw [hfile]; exact nofun)
    exact ⟨path', by rw [hpaths]; exact List.mem_append_right _ (List.mem_singleton_self _),
      hl ▸ hcreated'⟩

theorem stateAt_paths (hij : i ≤ j) {path : Text} (h : path ∈ (stateAt history start i).1.paths) :
    path ∈ (stateAt history start j).1.paths :=
  stateAt_induct (P := fun s => path ∈ s.1.paths) hij h fun _ doing _ _ _ hmem =>
    (apply_paths doing _).mem hmem

/-- A file that was written stays until a set is released that was not before. -/
theorem Makes.holds (hown : ∀ doing ∈ history, doing.Own) (h : Makes history start i l)
    (hreleased : ∀ m, i < m → m < n → history[m]? = some .release →
      (stateAt history start m).1.released = true) (hn : i < n) :
    ∃ content, (stateAt history start n).2.Holds l content := by
  obtain ⟨content, hcontent⟩ := h.made.1
  refine ⟨content, stateAt_induct (P := fun s => s.2.Holds l content) hn hcontent
    fun m doing him hmn hdoing hm => ?_⟩
  refine apply_holds (hown doing (List.mem_of_getElem? hdoing)) ?_ hm
  rintro rfl
  exact hreleased m (by omega) hmn hdoing

/-- Where nothing stands after a release nothing comes up until a file is written there. -/
theorem stateAt_vacant (hown : ∀ doing ∈ history, doing.Own)
    (hreleased : ∀ m, i ≤ m → m < n → history[m]? = some .release →
      (stateAt history start m).1.released = true)
    (hunmade : ∀ m, i ≤ m → m < n → ¬ Makes history start m l) (hn : i ≤ n)
    (h : (stateAt history start i).2.store.node? l = none) :
    (stateAt history start n).2.store.node? l = none := by
  refine stateAt_induct (P := fun s => s.2.store.node? l = none) hn h
    fun m doing him hmn hdoing hm => ?_
  refine apply_vacant (hown doing (List.mem_of_getElem? hdoing)) ?_ ?_ hm
  · rintro rfl
    exact hreleased m him hmn hdoing
  · rintro content suffix label path rfl hcreated
    refine hunmade m him hmn ⟨content, suffix, label, path, hdoing, ?_⟩
    rw [stateAt_succ hdoing]
    exact hcreated

/-- The system takes every registered path if it takes those that were added. -/
theorem stateAt_clean (hadded : ∀ i < n, ∀ path, history[i]? = some (.add path) → path.Clean)
    (hstart : start.1.paths = []) :
    ∀ path ∈ (stateAt history start n).1.paths, path.Clean := by
  refine stateAt_induct (P := fun s => ∀ path ∈ s.1.paths, path.Clean) (Nat.zero_le n) ?_
    fun m doing _ hmn hdoing hm => ?_
  · change ∀ path ∈ start.1.paths, path.Clean
    rw [hstart]
    exact nofun
  generalize stateAt history start m = s at hm ⊢
  have hone {path : Text} (hpath : path.Clean) : ∀ p ∈ s.1.paths ++ [path], p.Clean := by
    intro p hp
    rcases List.mem_append.1 hp with hp | hp
    · exact hm p hp
    · cases List.mem_singleton.1 hp
      exact hpath
  cases doing with
  | add path => exact hone (hadded m hmn path hdoing)
  | write content suffix label =>
    rcases write_paths content suffix label s with hsame | ⟨path, hclean, hadd⟩
    · rw [hsame]
      exact hm
    · rw [hadd]
      exact hone hclean
  | release =>
    have hpaths : (Doing.release.apply s).1.paths = s.1.paths := registered .release s
    rw [hpaths]
    exact hm
  | meanwhile change => exact hm

end history

/-! ## What releasing guarantees -/

/-- No release of a history fails, and after each of them no file is left that was written before. -/
structure Thorough (history : List Doing) (start : TempFiles × World) : Prop where
  quiet : ∀ j, history[j]? = some .release →
    (Drafting.release (stateAt history start j).1 (stateAt history start j).2).1.1 = .ok ()
  empties : ∀ i j l, i < j → Makes history start i l → history[j]? = some .release →
    (stateAt history start (j + 1)).2.store.node? l = none

/-- What a history with its first release at step `k` comes to. -/
structure Released (history : List Doing) (start : TempFiles × World) (k : Nat) : Prop where
  /-- The first release fails exactly if a path is registered that the system does not take. -/
  ended : (Drafting.release (stateAt history start k).1 (stateAt history start k).2).1.1 =
    outcomeOf (firstRefusal? (stateAt history start k).1.paths)
  /-- Of the files written before, it removes those that are named before the first such path. -/
  removed : ∀ i l, i < k → Makes history start i l →
    ((stateAt history start (k + 1)).2.store.node? l = none ↔
      ∃ path ∈ takenPaths (stateAt history start k).1.paths, start.2.store.Names path l)
  /-- Every later release does nothing. -/
  inert : ∀ j, k < j → history[j]? = some .release →
    Drafting.release (stateAt history start j).1 (stateAt history start j).2 =
      ((.ok (), (stateAt history start j).1), (stateAt history start j).2)
  /-- A file written later stays. -/
  late : ∀ i l n, k < i → i < n → Makes history start i l →
    ∃ content, (stateAt history start n).2.store.node? l = some (.file content)

section guarantees

variable {start : TempFiles × World} {history : List Doing} {i j k n : Nat} {l : Location}

theorem FirstRelease.before (hk : FirstRelease history k) {m : Nat} (hm : m < k) {P : Prop}
    (h : history[m]? = some .release) : P := absurd h (hk.2 m hm)

/-- **What the first release does and what comes after it**, for sets that nobody else interferes with. -/
theorem FirstRelease.comes_to (hk : FirstRelease history k) (hown : ∀ doing ∈ history, doing.Own)
    (hstart : start.1.released = false) (hw : start.2.Spares .remove) :
    Released history start k := by
  obtain ⟨htree, hspares⟩ := stateAt_level hown hw k
  obtain ⟨v, hrun, hstopped⟩ := release_stops (hk.released_before hstart (Nat.le_refl k)) hspares
  have hnext : stateAt history start (k + 1) =
      ({ (stateAt history start k).1 with released := true }, v) := by
    rw [stateAt_succ hk.1]
    simp only [Doing.apply, leaves, hrun]
  refine ⟨by rw [hrun], fun i l hi hmakes => ?_, fun j hj _ => release_again (hk.released_after hj) _,
    fun i l n hi hn hmakes => ?_⟩
  · -- the file is there when the set is released
    obtain ⟨content, hfile⟩ := hmakes.holds hown (fun m _ hm h => hk.before hm h) hi
    rw [hnext, hstopped.gone l content hfile.node]
    have hnames (path : Text) :
        (stateAt history start k).2.store.Names path l ↔ start.2.store.Names path l :=
      ⟨fun h => h.mono htree.symm, fun h => h.mono htree⟩
    simp only [hnames]
  · obtain ⟨content, hfile⟩ := hmakes.holds hown (fun m hm _ _ => hk.released_after (by omega)) hn
    exact ⟨content, hfile.node⟩

/-- A file that was written before the first release is named by a registered path. -/
theorem Makes.named (h : Makes history start i l) (hi : i < k)
    (hown : ∀ doing ∈ history, doing.Own) (hw : start.2.Spares .remove)
    (hs : start.2.store.Grounded) :
    ∃ path ∈ (stateAt history start k).1.paths, start.2.store.Names path l := by
  obtain ⟨path, hpath, hcreated⟩ := h.made.2
  obtain ⟨htree, -⟩ := stateAt_level hown hw i
  have hnames : (stateAt history start i).2.store.Names path l :=
    (hs.mono htree).names hcreated.taken hcreated.leads (by rw [hcreated.fresh]; exact nofun)
  exact ⟨path, stateAt_paths hi hpath, hnames.mono htree.symm⟩

/-- A release that succeeds has met no path that the system does not take. -/
theorem Thorough.clean (h : Thorough history start) (hk : FirstRelease history k)
    (hreleased : Released history start k) (hi : i < k) {path : Text}
    (hadd : history[i]? = some (.add path)) : path.Clean := by
  have hnone : firstRefusal? (stateAt history start k).1.paths = none := by
    have hquiet := h.quiet k hk.1
    rw [hreleased.ended] at hquiet
    rcases hfirst : firstRefusal? (stateAt history start k).1.paths with _ | f
    · rfl
    · rw [hfirst] at hquiet
      cases hquiet
  have hadded : (stateAt history start (i + 1)).1.paths =
      (stateAt history start i).1.paths ++ [path] := by
    rw [stateAt_succ hadd]
    exact registered (.add path) _
  have hmem : path ∈ (stateAt history start k).1.paths :=
    stateAt_paths hi (hadded ▸ List.mem_append_right _ (List.mem_singleton_self path))
  exact Path.refusal?_eq_none.1 (List.findSome?_eq_none_iff.1 hnone path hmem)

theorem Thorough.nothing_late (h : Thorough history start) (hreleased : Released history start k)
    (hki : k < i) (hij : i < j) (hj : history[j]? = some .release) :
    ¬ Makes history start i l := by
  intro hmakes
  have hgone := h.empties i j l hij hmakes hj
  obtain ⟨content, hfile⟩ := hreleased.late i l (j + 1) hki (by omega) hmakes
  rw [hgone] at hfile
  cases hfile

/-- A file that was written before the first release is gone after it, if that one succeeds. -/
theorem Makes.gone (h : Makes history start i l) (hi : i < k) (hreleased : Released history start k)
    (hown : ∀ doing ∈ history, doing.Own) (hw : start.2.Spares .remove)
    (hs : start.2.store.Grounded) (hclean : ∀ path ∈ (stateAt history start k).1.paths, path.Clean) :
    (stateAt history start (k + 1)).2.store.node? l = none := by
  obtain ⟨path, hpath, hnames⟩ := h.named hi hown hw hs
  refine (hreleased.removed i l hi h).2 ⟨path, ?_, hnames⟩
  rcases takenPaths_cases (stateAt history start k).1.paths with
    ⟨-, htaken⟩ | ⟨f, bad, rest, -, hbad, hsplit⟩
  · rw [htaken]
    exact hpath
  · have hmem : bad ∈ (stateAt history start k).1.paths := by
      rw [hsplit]
      simp
    rw [Path.refusal?_eq_none.2 (hclean bad hmem)] at hbad
    cases hbad

/-- A release is no step that writes a file. -/
theorem Makes.ne_of_release (h : Makes history start i l) (hj : history[j]? = some .release) :
    i ≠ j := by
  rintro rfl
  obtain ⟨_, _, _, _, hwrite, -⟩ := h
  cases hj.symm.trans hwrite

end guarantees

/-- **What releasing guarantees, and when.** Let a set be used in any way, and let no removal be made to
fail. The first release tries the registered paths up to the first one that the system does not take, fails
with the refusal of that path if there is one, and leaves the rest; releases after it do nothing, and what
is written after it stays. So no release fails and each of them leaves no file behind **exactly if the
system takes every path that was added before the first release, and nothing is written between that one
and a later one.** -/
theorem releasing_is_thorough_iff (directory : Value) (stem : Text) (w : World)
    (history : List Doing) (hown : ∀ doing ∈ history, doing.Own) (hw : w.Spares .remove)
    (hs : w.store.Grounded) :
    let start := (TempFiles.none directory stem, w)
    (∀ k, FirstRelease history k → Released history start k) ∧
    (Thorough history start ↔ ∀ k, FirstRelease history k →
      (∀ i < k, ∀ path, history[i]? = some (.add path) → path.Clean) ∧
      ∀ i j l, k < i → i < j → history[j]? = some .release → ¬ Makes history start i l) := by
  intro start
  have hcomes k (hk : FirstRelease history k) : Released history start k :=
    hk.comes_to hown rfl hw
  refine ⟨hcomes, fun h k hk => ⟨fun i hi path hadd => h.clean hk (hcomes k hk) hi hadd,
    fun i j l hki hij hj => h.nothing_late (hcomes k hk) hki hij hj⟩, fun hall => ⟨?_, ?_⟩⟩
  · intro j hj
    obtain ⟨k, hkj, hk⟩ := exists_firstRelease hj
    rcases Nat.eq_or_lt_of_le hkj with rfl | hlt
    · have hclean : ∀ path ∈ (stateAt history start k).1.paths, path.Clean :=
        stateAt_clean (hall k hk).1 rfl
      have hnone : firstRefusal? (stateAt history start k).1.paths = none :=
        List.findSome?_eq_none_iff.2 fun path hpath => Path.refusal?_eq_none.2 (hclean path hpath)
      rw [(hcomes k hk).ended, hnone]
      rfl
    · rw [(hcomes k hk).inert j hlt hj]
  · intro i j l hij hmakes hj
    obtain ⟨k, hkj, hk⟩ := exists_firstRelease hj
    obtain ⟨hadded, hlate⟩ := hall k hk
    have hik : i < k := by
      have hne := hmakes.ne_of_release hk.1
      have hnot : ¬ k < i := fun hki => hlate i j l hki hij hj hmakes
      omega
    -- the first release removes the file, and nothing is written after it
    have hgone := hmakes.gone hik (hcomes k hk) hown hw hs
      (stateAt_clean hadded rfl)
    refine stateAt_vacant hown (fun m hm _ _ => hk.released_after hm) (fun m hm hmj hmade => ?_)
      (by omega) hgone
    have hne := hmade.ne_of_release hj
    exact hlate m j l hm (by omega) hj hmade

/-- Two files are written, and a path is added at which nothing stands; then the set is released twice. -/
def tidy : List Doing :=
  [.write "<p>" ".html" "template", .add "elsewhere", .write "a,b" ".csv" "CSV", .release, .release]

/-- In the sample world every directory stands in a directory. -/
theorem sample_grounded : Sample.world.store.Grounded :=
  grounded_of_nodes (by decide +kernel)

/-- No fault is set in the sample world. -/
theorem sample_spares : Sample.world.Spares .remove := nofun

/-- Whoever releases after everything was written leaves nothing behind. -/
theorem releasing_is_thorough_iff_of_tidy :
    let start := (TempFiles.none .null TempFiles.defaultStem, Sample.world)
    (∀ doing ∈ tidy, doing.Own) ∧ Sample.world.Spares .remove ∧ Sample.world.store.Grounded ∧
    Released tidy start 3 ∧ Thorough tidy start ∧
    (stateAt tidy start 3).2.store.node? ["tmp", "mailgrid-ui-2.csv"] = some (.file [97, 44, 98]) ∧
    (stateAt tidy start 4).2.store.node? ["tmp", "mailgrid-ui-2.csv"] = none := by
  intro start
  have hown : ∀ doing ∈ tidy, doing.Own := by
    simp [tidy, Doing.Own]
  have hfirst : FirstRelease tidy 3 := by
    refine ⟨rfl, fun i hi => ?_⟩
    have hcases : i = 0 ∨ i = 1 ∨ i = 2 := by omega
    rcases hcases with rfl | rfl | rfl <;> exact nofun
  obtain ⟨hcomes, hiff⟩ := releasing_is_thorough_iff .null TempFiles.defaultStem Sample.world tidy
    hown sample_spares sample_grounded
  refine ⟨hown, sample_spares, sample_grounded, hcomes 3 hfirst, hiff.2 fun k hk => ⟨?_, ?_⟩,
    by decide +kernel, by decide +kernel⟩
  · intro i _ path hadd
    have hmem : .add path ∈ tidy := List.mem_of_getElem? hadd
    have heq : path = "elsewhere" := by simpa [tidy] using hmem
    rw [heq]
    decide
  · rintro i j l hki hij hj ⟨content, suffix, label, path, hwrite, -⟩
    -- there are two steps after the first release at most, and no write among them
    have hk3 : ¬ k < 3 := fun h => absurd hk.1 (hfirst.2 k h)
    have hi : i < tidy.length := (List.getElem?_eq_some_iff.1 hwrite).1
    have hi4 : i = 4 := by
      have hlen : tidy.length = 5 := rfl
      omega
    rw [hi4] at hwrite
    cases hwrite

/-- A file that comes up with a write was written by it. -/
theorem makes_of_appears {history : List Doing} {start : TempFiles × World} {i : Nat} {l : Location}
    {content suffix label : Text} (hdoing : history[i]? = some (.write content suffix label))
    (hbefore : (stateAt history start i).2.store.node? l = none)
    (hafter : (stateAt history start (i + 1)).2.store.node? l ≠ none) :
    Makes history start i l := by
  have hregistered := registered_write content suffix label (stateAt history start i)
  rw [← stateAt_succ hdoing] at hregistered
  rcases hregistered with ⟨-, -, hsame⟩ | ⟨path, k, -, hcreated⟩
  · exact absurd ((hsame.vacant l (by simp)).2 hbefore) hafter
  · have hl : l = k := hcreated.same.eq_of_appears hbefore hafter
    exact ⟨content, suffix, label, path, hdoing, hl ▸ hcreated⟩

/-- **Releasing falls short of what one counts on** in two ways: a registered path with a zero makes it fail
before it comes to the file that was written, and a file that is written after a release is not removed by
the next one. -/
theorem releasing_falls_short :
    let start := (TempFiles.none .null TempFiles.defaultStem, Sample.world)
    ¬ Thorough [.add [0], .write "x" ".html" "file", .release] start ∧
    ¬ Thorough [.release, .write "x" ".html" "file", .release] start := by
  intro start
  refine ⟨fun h => ?_, fun h => ?_⟩
  · have hquiet := h.quiet 2 rfl
    have hfails : ((Drafting.release
        (stateAt [.add [0], .write "x" ".html" "file", .release] start 2).1
        (stateAt [.add [0], .write "x" ".html" "file", .release] start 2).2).1.1).isOk = false := by
      decide +kernel
    rw [hquiet] at hfails
    cases hfails
  · have hmakes : Makes [.release, .write "x" ".html" "file", .release] start 1
        ["tmp", "mailgrid-ui-1.html"] :=
      makes_of_appears rfl (by decide +kernel) (by decide +kernel)
    have hgone := h.empties 1 2 _ (by omega) hmakes rfl
    revert hgone
    decide +kernel

end Drafting

end CampaignDesk
