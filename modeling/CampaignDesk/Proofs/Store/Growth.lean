import CampaignDesk.Journal.Logging
import CampaignDesk.Proofs.Store.Documents

/-!
# Stores that only grow

Making directories and opening a log file adds to a store and takes nothing away.

* `Extends`: one store has all that another has. `Extends.lookup?`, `Extends.read?`: **paths lead to
  what they led to before, and files hold what they held.**
* `extends_makeDirectories?`, `Logging.extends_setUp`: **making directories and setting up the log extend
  a store.**
* `held?`: what files hold; making directories leaves that alone.
* `makeDirectories?_induction`, `Logging.openFile?_eq_ok`: what is added.
* `makeDirectories?_of_isDirectory`: a directory that is there already is not made.
-/

namespace CampaignDesk

namespace Store

variable {s t u : Store} {l : Location} {path : Text} {n : Node} {content : Bytes}

/-- The store `t` has all that `s` has, seen from the same working directory. -/
structure Extends (s t : Store) : Prop where
  here : t.here = s.here
  node : ∀ l n, s.node? l = some n → t.node? l = some n

namespace Extends

theorem refl (s : Store) : Extends s s := ⟨rfl, fun _ _ h => h⟩

theorem trans (h : Extends s t) (h' : Extends t u) : Extends s u :=
  ⟨h'.here.trans h.here, fun l n hl => h'.node l n (h.node l n hl)⟩

/-- Putting something where nothing stood, or what stood there already, extends a store. -/
theorem put (h : ∀ m, s.node? l = some m → m = n) : Extends s (s.put l n) := by
  refine ⟨rfl, fun k m hk => ?_⟩
  by_cases hkl : k = l
  · subst hkl
    rw [node?_put_self, h m hk]
  · rw [node?_put_of_ne s hkl, hk]

theorem keepsTree (h : Extends s t) : KeepsTree s t := ⟨h.here, fun l => h.node l .directory⟩

end Extends

/-! ## What stays -/

theorem lookup?_eq_ok : s.lookup? path = .ok (l, n) ↔
    admit? path = .ok () ∧ s.walk? (s.start path) (namesOf path) = .ok l ∧ s.node? l = some n := by
  unfold lookup? locate?
  cases htakes : admit? path with
  | error e => simp [bind, Except.bind]
  | ok _ =>
    cases hwalk : s.walk? (s.start path) (namesOf path) with
    | error e => simp [bind, Except.bind]
    | ok m =>
      simp only [bind, Except.bind, true_and, Except.ok.injEq]
      rcases hm : s.node? m with _ | found
      · simp only [throw, throwThe, MonadExceptOf.throw, reduceCtorEq, false_iff, not_and]
        rintro rfl h
        cases hm.symm.trans h
      · simp only [pure, Except.pure, Except.ok.injEq, Prod.mk.injEq]
        constructor
        · rintro ⟨rfl, rfl⟩
          exact ⟨rfl, hm⟩
        · rintro ⟨rfl, h⟩
          exact ⟨rfl, Option.some.inj (hm.symm.trans h)⟩

theorem Extends.lookup? (h : Extends s t) (hs : s.lookup? path = .ok (l, n)) :
    t.lookup? path = .ok (l, n) := by
  obtain ⟨htakes, hwalk, hnode⟩ := lookup?_eq_ok.1 hs
  refine lookup?_eq_ok.2 ⟨htakes, ?_, h.node l n hnode⟩
  rw [h.keepsTree.start]
  exact h.keepsTree.walk? hwalk

/-- A file that can be read stands where its path leads. -/
theorem read?_eq_ok : s.read? path = .ok content ↔
    Path.refusal? path = none ∧ ∃ l, s.lookup? path = .ok (l, .file content) := by
  unfold Store.read? guarded
  rcases Path.refusal? path with _ | f
  · rcases hlookup : s.lookup? path with e | ⟨l, _ | b⟩
    · simp [about, bind, Except.bind]
    · simp [about, bind, Except.bind, throw, throwThe, MonadExceptOf.throw]
    · simp [about, bind, Except.bind, pure, Except.pure]
  · simp

/-- **A file holds what it held in a store that has more.** -/
theorem Extends.read? (h : Extends s t) (hs : s.read? path = .ok content) :
    t.read? path = .ok content := by
  obtain ⟨htaken, l, hlookup⟩ := read?_eq_ok.1 hs
  exact read?_eq_ok.2 ⟨htaken, l, h.lookup? hlookup⟩

theorem isDirectory_iff : s.isDirectory path = true ↔
    Path.refusal? path = none ∧ ∃ l, s.lookup? path = .ok (l, .directory) := by
  unfold Store.isDirectory guarded
  rcases Path.refusal? path with _ | f
  · rcases hlookup : s.lookup? path with e | ⟨l, _ | b⟩ <;> simp [about]
  · simp

theorem Extends.isDirectory (h : Extends s t) (hs : s.isDirectory path = true) :
    t.isDirectory path = true := by
  obtain ⟨htaken, l, hlookup⟩ := isDirectory_iff.1 hs
  exact isDirectory_iff.2 ⟨htaken, l, h.lookup? hlookup⟩

/-! ## What files hold -/

/-- What the file at a location holds, if there is one. -/
def held? (s : Store) (l : Location) : Option Bytes :=
  match s.node? l with
  | some (.file content) => some content
  | _ => none

theorem held?_eq_some : s.held? l = some content ↔ s.node? l = some (.file content) := by
  unfold held?
  rcases s.node? l with _ | _ | b <;> simp

@[simp] theorem held?_put_file (s : Store) (l : Location) (content : Bytes) :
    (s.put l (.file content)).held? l = some content := held?_eq_some.2 (node?_put_self s l _)

theorem held?_put_of_ne (s : Store) {k : Location} (h : k ≠ l) (n : Node) :
    (s.put l n).held? k = s.held? k := by
  rw [held?, node?_put_of_ne s h, held?]

theorem contentAt_eq (s : Store) (l : Location) : s.contentAt l = (s.held? l).getD [] := by
  unfold contentAt held?
  rcases s.node? l with _ | _ | b <;> rfl

/-! ## What adds to a store -/

/-- **Making directories puts directories where nothing stood, and does nothing else**: what holds of a
store, and goes on to hold as directories are made, holds of the store that has them. -/
theorem makeDirectories?_induction {P : Store → Prop} {path : PathForm}
    (h : s.makeDirectories? path = .ok t) (hs : P s)
    (hstep : ∀ u l, P u → u.node? l = none → P (u.put l .directory)) : P t := by
  have hensure {u v : Store} {path : Text} (hu : P u) (h : u.ensureDirectory? path = .ok v) : P v := by
    unfold ensureDirectory? at h
    rcases hmake : u.makeDirectory? path with f | made <;> rw [hmake] at h
    · dsimp only at h
      split at h <;> cases h
      exact hu
    · cases h
      obtain ⟨-, h⟩ := guarded_eq_ok.1 hmake
      rcases hlocate : u.locate? path with e | l <;> simp only [hlocate, bind, Except.bind] at h
      · cases h
      rcases hnode : u.node? l with _ | n <;> simp only [hnode] at h <;> cases h
      exact hstep u l hu hnode
  unfold makeDirectories? at h
  generalize path.names.length = above at h
  induction above generalizing s t path with
  | zero => exact hensure hs h
  | succ above ih =>
    unfold ensureDirectories? at h
    rcases hfirst : s.ensureDirectory? path.toText with f | made <;> rw [hfirst] at h
    · dsimp only at h
      split at h
      · -- the directories above are made first
        rcases habove : ensureDirectories? above s path.parent with g | u <;>
          simp only [habove, bind, Except.bind] at h
        · cases h
        · exact hensure (ih hs habove) h
      · cases h
    · cases h
      exact hensure hs hfirst

/-- **Making directories extends a store.** -/
theorem extends_makeDirectories? {path : PathForm} (h : s.makeDirectories? path = .ok t) :
    Extends s t := by
  refine makeDirectories?_induction h (.refl s) fun u l hu hfree => hu.trans (.put fun m hm => ?_)
  cases hfree.symm.trans hm

/-- **Making directories makes no files, and changes none.** -/
theorem held?_makeDirectories? {path : PathForm} (h : s.makeDirectories? path = .ok t) :
    t.held? l = s.held? l := by
  refine makeDirectories?_induction (P := fun u => u.held? l = s.held? l) h rfl fun u k hu hfree => ?_
  by_cases hlk : l = k
  · subst hlk
    rw [← hu, held?, held?, hfree, node?_put_self]
  · rw [held?_put_of_ne u hlk, hu]

/-- A file that is opened for more content holds what it held. -/
theorem Writable.extends_put (h : Writable s path l) : Extends s (s.put l (.file (s.contentAt l))) := by
  refine .put fun m hm => ?_
  cases m with
  | directory => exact absurd hm h.free
  | file b => simp [contentAt, hm]

/-- **A directory that is there already is not made.** -/
theorem makeDirectories?_of_isDirectory {path : PathForm} (h : s.isDirectory path.toText = true) :
    s.makeDirectories? path = .ok s := by
  obtain ⟨htaken, l, hlookup⟩ := isDirectory_iff.1 h
  obtain ⟨htakes, hwalk, hnode⟩ := lookup?_eq_ok.1 hlookup
  have hmake : s.makeDirectory? path.toText = .error (.system .exists path.toText) := by
    simp [makeDirectory?, guarded, htaken, locate?, htakes, hwalk, hnode, about, bind, Except.bind,
      throw, throwThe, MonadExceptOf.throw]
  have hensure : s.ensureDirectory? path.toText = .ok s := by
    have hos : (Failure.system .exists path.toText).kind.isA .osError = true := rfl
    rw [ensureDirectory?, hmake]
    simp only [hos, h, Bool.and_self, if_true]
  unfold makeDirectories?
  cases path.names.length with
  | zero => exact hensure
  | succ above => rw [ensureDirectories?, hensure]

end Store

/-! ## The log -/

namespace Logging

variable {s : Store} {g : Logging}

/-- **A log file is opened exactly if its path is writable**, and holds what it held, or nothing. -/
theorem openFile?_eq_ok {path : PathForm} {t : Store} {l : Location} : openFile? s path = .ok (t, l) ↔
    s.Writable (Path.normalize path.toText) l ∧ t = s.put l (.file (s.contentAt l)) := by
  -- the path leads to the file now that it is there
  have hlocate {k : Location} (h : s.Writable (Path.normalize path.toText) k) :
      (s.put k (.file (s.contentAt k))).locate? (Path.normalize path.toText) = .ok k := by
    obtain ⟨hadmits, -, hwalk⟩ := Store.creation?_eq_ok.1 (h.put (s.contentAt k)).leads
    rw [Store.locate?, hadmits]
    exact hwalk
  unfold openFile?
  constructor
  · intro h
    rcases happend : s.append? (Path.normalize path.toText) [] with f | made <;>
      simp only [happend, bind, Except.bind] at h
    · cases h
    obtain ⟨k, hplace, rfl⟩ := Store.append?_eq_ok.1 happend
    rw [List.append_nil, hlocate hplace] at h
    cases h
    exact ⟨hplace, rfl⟩
  · rintro ⟨hplace, rfl⟩
    have happend : s.append? (Path.normalize path.toText) [] = .ok (s.put l (.file (s.contentAt l))) :=
      Store.append?_eq_ok.2 ⟨l, hplace, by rw [List.append_nil]⟩
    simp only [happend, bind, Except.bind, hlocate hplace]
    rfl

/-- **Setting up the log extends a store**, whether or not it succeeds. -/
theorem extends_setUp (r : LogRequest) (s : Store) (g : Logging) : s.Extends (setUp r s g).2.1 := by
  unfold setUp
  rcases hmake : s.makeDirectories? r.path.parent with f | made
  · exact .refl s
  dsimp only
  have hmade := Store.extends_makeDirectories? hmake
  rcases threshold? r.level with f | threshold
  · exact hmade
  dsimp only
  rcases hopen : openFile? made r.path with f | ⟨opened, l⟩
  · exact hmade
  · obtain ⟨hplace, rfl⟩ := openFile?_eq_ok.1 hopen
    exact hmade.trans hplace.extends_put

end Logging

end CampaignDesk
