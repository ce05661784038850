import CampaignDesk.Proofs.Text.Pieces
import CampaignDesk.Store.Access

/-!
# Where paths lead

A path is resolved through directories alone, so files that come and go do not change where it leads.

* `KeepsTree`: one store has the directories of another. `KeepsTree.walk?`, `KeepsTree.creation?`:
  **paths lead where they led before.** `SameTree`: each has those of the other.
* `Names`: a path leads to a location and names an entry there that can be made and removed;
  `create?_eq_ok`, `remove?_eq_ok` and `Names.lookup?` say what such a path is good for.
* `Grounded`: every directory stands in a directory. `Grounded.names`: in such a store **a path that leads
  anywhere but to a directory names an entry there.**
* `creation?_eq_placeOf`: where a path leads can be told from its names.
* `namesOf_join_getLast?`: a path below a directory ends with the name that was put there.
-/

namespace CampaignDesk

namespace Store

variable {s t u : Store} {k l : Location} {path : Text}

/-! ## Stores that keep the directories of others -/

/-- The directories of `s` are directories of `t`, and both are seen from the same one. -/
structure KeepsTree (s t : Store) : Prop where
  here : t.here = s.here
  directory : ∀ l, s.node? l = some .directory → t.node? l = some .directory

namespace KeepsTree

theorem enter? (h : KeepsTree s t) {name : Text} (hs : s.enter? k name = .ok l) :
    t.enter? k name = .ok l := by
  unfold Store.enter? at hs ⊢
  rcases hk : s.node? k with _ | _ | b <;> rw [hk] at hs
  · cases hs
  · rw [h.directory k hk]
    exact hs
  · cases hs

/-- **A walk that gets somewhere gets there through any store that keeps the directories.** -/
theorem walk? (h : KeepsTree s t) {names : List Text} (hs : s.walk? k names = .ok l) :
    t.walk? k names = .ok l := by
  unfold Store.walk? at hs ⊢
  induction names generalizing k with
  | nil => exact hs
  | cons name names ih =>
    rw [List.foldlM_cons] at hs ⊢
    rcases hk : s.enter? k name with e | m <;> rw [hk] at hs
    · cases hs
    · rw [h.enter? hk]
      exact ih hs

theorem start (h : KeepsTree s t) (path : Text) : t.start path = s.start path := by
  unfold Store.start
  rw [h.here]

end KeepsTree

/-! ## Stores with the same directories -/

/-- Two stores with the same working directory and the same directories. -/
structure SameTree (s t : Store) : Prop where
  here : t.here = s.here
  directory : ∀ l, t.node? l = some .directory ↔ s.node? l = some .directory

theorem SameTree.refl (s : Store) : SameTree s s := ⟨rfl, fun _ => Iff.rfl⟩

theorem SameTree.symm (h : SameTree s t) : SameTree t s :=
  ⟨h.here.symm, fun l => (h.directory l).symm⟩

theorem SameTree.trans (h : SameTree s t) (h' : SameTree t u) : SameTree s u :=
  ⟨h'.here.trans h.here, fun l => (h'.directory l).trans (h.directory l)⟩

theorem SameTree.keepsTree (h : SameTree s t) : KeepsTree s t :=
  ⟨h.here, fun l => (h.directory l).2⟩

theorem sameTree_put {b : Bytes} (h : s.node? l ≠ some .directory) :
    SameTree s (s.put l (.file b)) := by
  refine ⟨rfl, fun k => ?_⟩
  by_cases hk : k = l
  · subst hk
    simp [h]
  · rw [node?_put_of_ne s hk]

theorem sameTree_erase (h : s.node? l ≠ some .directory) : SameTree s (s.erase l) := by
  refine ⟨rfl, fun k => ?_⟩
  by_cases hk : k = l
  · subst hk
    simp [h]
  · rw [node?_erase_of_ne s hk]

/-! ## Paths that name an entry -/

theorem creation?_eq_ok :
    s.creation? path = .ok l ↔ admit? path = .ok () ∧ path.getLast? ≠ some Path.slash ∧
      s.walk? (s.start path) (namesOf path) = .ok l := by
  unfold creation?
  cases ha : admit? path with
  | error e => simp [bind, Except.bind]
  | ok _ =>
    by_cases hs : path.getLast? = some Path.slash
    · cases s.walk? (s.start path) (namesOf path).dropLast <;> simp [bind, Except.bind, hs]
    · simp [bind, Except.bind, hs]

/-- The path leads to `l`, where it names an entry of a directory. -/
structure Names (s : Store) (path : Text) (l : Location) : Prop where
  taken : Path.refusal? path = none
  leads : s.creation? path = .ok l
  last : ∃ name, (namesOf path).getLast? = some name ∧ name ≠ Path.dot ∧ name ≠ Path.dotDot

/-- A file is made at the same location in every store that keeps the directories. -/
theorem KeepsTree.creation? (ht : KeepsTree s t) (h : s.creation? path = .ok l) :
    t.creation? path = .ok l := by
  obtain ⟨ha, hs, hw⟩ := creation?_eq_ok.1 h
  refine creation?_eq_ok.2 ⟨ha, hs, ?_⟩
  rw [ht.start]
  exact ht.walk? hw

/-- **A path names the same location in every store with the same directories.** -/
theorem Names.mono (h : Names s path l) (ht : SameTree s t) : Names t path l :=
  ⟨h.taken, ht.keepsTree.creation? h.leads, h.last⟩

/-- A path names one location only. -/
theorem Names.unique (h : Names s path k) (h' : Names s path l) : k = l :=
  Except.ok.inj (h.leads.symm.trans h'.leads)

/-- A path at which a file is made leads to what stands there. -/
theorem lookup?_of_creation? (h : s.creation? path = .ok l) {n : Node} (hn : s.node? l = some n) :
    s.lookup? path = .ok (l, n) := by
  obtain ⟨ha, -, hw⟩ := creation?_eq_ok.1 h
  simp [Store.lookup?, locate?, ha, hw, hn, bind, Except.bind, pure, Except.pure]

theorem read?_of_creation? (htaken : Path.refusal? path = none) (h : s.creation? path = .ok l)
    {b : Bytes} (hb : s.node? l = some (.file b)) : s.read? path = .ok b := by
  simp [Store.read?, guarded, htaken, lookup?_of_creation? h hb, about, bind, Except.bind, pure,
    Except.pure]

/-- What is at the location is what the path leads to. -/
theorem Names.lookup? (h : Names s path l) {n : Node} (hn : s.node? l = some n) :
    s.lookup? path = .ok (l, n) := lookup?_of_creation? h.leads hn

theorem Names.read? (h : Names s path l) {b : Bytes} (hb : s.node? l = some (.file b)) :
    s.read? path = .ok b := read?_of_creation? h.taken h.leads hb

/-- **Removing by such a path removes what is at the location**, if that is a file. -/
theorem Names.remove? (h : Names s path l) :
    s.remove? path = match s.node? l with
      | some (.file _) => .ok (s.erase l)
      | some .directory => .error (.system .isDirectory path)
      | none => .error (.system .noSuchFile path) := by
  obtain ⟨ha, hs, hw⟩ := creation?_eq_ok.1 h.leads
  obtain ⟨name, hlast, hdot, hdots⟩ := h.last
  unfold Store.remove? guarded removable?
  rw [h.taken, ha]
  simp only [hs, decide_false, Bool.false_eq_true, if_false, hlast, hw, hdot, hdots, Bool.or_self,
    bind, Except.bind]
  rcases s.node? l with _ | _ | b <;> rfl

/-- A path by which a file can be removed ends with the name of that file. -/
theorem removable?_eq_ok (h : s.removable? path = .ok l) :
    s.creation? path = .ok l ∧
      (∃ name, (namesOf path).getLast? = some name ∧ name ≠ Path.dot ∧ name ≠ Path.dotDot) ∧
      ∃ content, s.node? l = some (.file content) := by
  have htakes : admit? path = .ok () := by
    rcases ha : admit? path with e | _
    · simp [removable?, ha, bind, Except.bind] at h
    · rfl
  simp only [removable?, htakes, bind, Except.bind] at h
  -- a slash at the end is refused wherever the names before it lead
  have hslash : path.getLast? ≠ some Path.slash := by
    intro hslash
    simp only [hslash, if_true] at h
    split at h
    · cases h
    split at h
    · cases h
    split at h
    · cases h
    split at h <;> cases h
  simp only [hslash, if_false] at h
  rcases hlast : (namesOf path).getLast? with _ | name <;> simp only [hlast] at h
  · cases h
  rcases hwalk : s.walk? (s.start path) (namesOf path) with e | k <;> simp only [hwalk] at h
  · cases h
  split at h
  · cases h
  rename_i hdots
  simp only [Bool.or_eq_true, decide_eq_true_eq, not_or] at hdots
  split at h <;> cases h
  exact ⟨creation?_eq_ok.2 ⟨htakes, hslash, hwalk⟩, ⟨name, rfl, hdots⟩, _, ‹_›⟩

/-- **What is removed by a path is the file that it names.** -/
theorem remove?_eq_ok : s.remove? path = .ok t ↔
    ∃ l content, s.Names path l ∧ s.node? l = some (.file content) ∧ t = s.erase l := by
  constructor
  · intro h
    unfold Store.remove? guarded at h
    rcases htaken : Path.refusal? path with _ | f <;> simp only [htaken] at h
    · rcases hl : s.removable? path with e | l <;> rw [hl] at h <;> cases h
      obtain ⟨hleads, hlast, content, hfile⟩ := removable?_eq_ok hl
      exact ⟨l, content, ⟨htaken, hleads, hlast⟩, hfile, rfl⟩
    · cases h
  · rintro ⟨l, content, hnames, hfile, rfl⟩
    rw [hnames.remove?, hfile]

/-- **A file is made only where nothing stands**, and is empty at first. -/
theorem create?_eq_ok :
    s.create? path = .ok (t, l) ↔ Path.refusal? path = none ∧ s.creation? path = .ok l ∧
      s.node? l = none ∧ t = s.put l (.file []) := by
  unfold create? guarded
  cases Path.refusal? path with
  | some f => simp
  | none =>
    cases s.creation? path with
    | error e => simp [about, bind, Except.bind]
    | ok m =>
      cases hm : s.node? m with
      | some n =>
        simp only [about, bind, Except.bind, throw, throwThe, MonadExceptOf.throw, hm]
        simp only [reduceCtorEq, Except.ok.injEq, true_and, false_iff, not_and]
        rintro rfl h
        rw [h] at hm
        cases hm
      | none =>
        simp only [about, bind, Except.bind, pure, Except.pure, hm, Except.ok.injEq,
          Prod.mk.injEq, true_and]
        constructor
        · rintro ⟨rfl, rfl⟩
          exact ⟨rfl, hm, rfl⟩
        · rintro ⟨rfl, -, rfl⟩
          exact ⟨rfl, rfl⟩

/-! ## Stores whose directories have a place -/

/-- Every directory stands in a directory; the root stands in itself. -/
def Grounded (s : Store) : Prop :=
  ∀ l, s.node? l = some .directory → s.node? l.dropLast = some .directory

theorem Grounded.mono (h : s.Grounded) (ht : SameTree s t) : t.Grounded := by
  intro l hl
  exact (ht.directory _).2 (h l ((ht.directory l).1 hl))

/-- What is to be seen among the nodes of a store. -/
theorem mem_of_nodeIn? {nodes : List (Location × Node)} {n : Node} (h : nodeIn? l nodes = some n) :
    (l, n) ∈ nodes := by
  induction nodes with
  | nil => cases h
  | cons entry rest ih =>
    obtain ⟨k, m⟩ := entry
    unfold nodeIn? at h
    split at h
    · rename_i hkl
      cases h
      rw [hkl]
      exact List.mem_cons_self
    · exact List.mem_cons_of_mem _ (ih h)

theorem grounded_of_nodes
    (h : ∀ e ∈ s.nodes, e.2 = .directory → s.node? e.1.dropLast = some .directory) : s.Grounded :=
  fun _ hl => h _ (mem_of_nodeIn? hl) rfl

/-- A dot or two at the end of a walk lead to a directory. -/
theorem Grounded.walk?_dots (hs : s.Grounded) {names : List Text} {name : Text}
    (hname : name = Path.dot ∨ name = Path.dotDot) (h : s.walk? k (names ++ [name]) = .ok l) :
    s.node? l = some .directory := by
  unfold walk? at h
  rw [List.foldlM_append] at h
  rcases hwalk : names.foldlM s.enter? k with e | m <;> rw [hwalk] at h
  · cases h
  change s.enter? m name >>= pure = .ok l at h
  rw [bind_pure] at h
  unfold enter? at h
  rcases hm : s.node? m with _ | _ | content <;> rw [hm] at h
  · cases h
  · rcases hname with rfl | rfl <;> cases h
    · exact hm
    · exact hs m hm
  · cases h

/-- A path that does not end with a slash has a last name. -/
theorem namesOf_ne_nil (hpath : path ≠ []) (hslash : path.getLast? ≠ some Path.slash) :
    namesOf path ≠ [] := by
  have hlast : path.getLast? = some (path.getLast hpath) := List.getLast?_eq_some_getLast hpath
  have hc : path.getLast hpath ≠ Path.slash := fun heq => hslash (hlast.trans (congrArg some heq))
  obtain ⟨piece, hpiece, hsome⟩ := Text.exists_piece ⟨_, List.getLast_mem hpath, hc⟩
  unfold namesOf
  rw [if_neg hslash]
  refine List.ne_nil_of_mem (List.mem_filter.2 ⟨hpiece, ?_⟩)
  simpa using hsome

/-- **A path that leads anywhere but to a directory names an entry there.** -/
theorem Grounded.names (hs : s.Grounded) (htaken : Path.refusal? path = none)
    (h : s.creation? path = .ok l) (hl : s.node? l ≠ some .directory) : s.Names path l := by
  refine ⟨htaken, h, ?_⟩
  obtain ⟨hadmits, hslash, hwalk⟩ := creation?_eq_ok.1 h
  have hpath : path ≠ [] := by
    rintro rfl
    cases hadmits
  have hnames := namesOf_ne_nil hpath hslash
  rw [← List.dropLast_concat_getLast hnames] at hwalk
  exact ⟨_, List.getLast?_eq_some_getLast hnames, fun hdot => hl (hs.walk?_dots (.inl hdot) hwalk),
    fun hdots => hl (hs.walk?_dots (.inr hdots) hwalk)⟩

/-! ## Places -/

/-- One name further from a location, as far as names tell. -/
def follow (at? : Location) (name : Text) : Location :=
  if name = Path.dot then at? else if name = Path.dotDot then at?.dropLast else at? ++ [name]

/-- The location that a path leads to from a working directory, if it leads anywhere. -/
def placeOf (here : Location) (path : Text) : Location :=
  (namesOf path).foldl follow (if Path.isAbsolute path then [] else here)

theorem enter?_eq_follow {name : Text} (h : s.enter? k name = .ok l) : l = follow k name := by
  unfold enter? at h
  split at h
  · cases h
  · cases h
  unfold follow
  split at h
  · next hdot =>
    cases h
    rw [if_pos hdot]
  next hdot =>
  split at h
  · next hdots =>
    cases h
    rw [if_neg hdot, if_pos hdots]
  next hdots =>
  split at h
  · cases h
  · cases h
    rw [if_neg hdot, if_neg hdots]

theorem walk?_eq_foldl {names : List Text} (h : s.walk? k names = .ok l) : l = names.foldl follow k := by
  unfold walk? at h
  induction names generalizing k with
  | nil =>
    cases h
    rfl
  | cons name names ih =>
    rw [List.foldlM_cons] at h
    rcases hk : s.enter? k name with e | m <;> rw [hk] at h
    · cases h
    · rw [List.foldl_cons, ← enter?_eq_follow hk]
      exact ih h

/-- **Where a path leads can be told from its names**, whatever the store holds, if it leads anywhere. -/
theorem creation?_eq_placeOf (h : s.creation? path = .ok l) : l = placeOf s.here path :=
  walk?_eq_foldl (creation?_eq_ok.1 h).2.2

/-! ## Several paths -/

/-- The locations that paths lead to. -/
def places (s : Store) (paths : List Text) : List Location :=
  paths.filterMap fun path => (s.creation? path).toOption

theorem mem_places {paths : List Text} :
    l ∈ s.places paths ↔ ∃ path ∈ paths, s.creation? path = .ok l := by
  unfold places
  rw [List.mem_filterMap]
  refine exists_congr fun path => and_congr_right fun _ => ?_
  cases s.creation? path <;> simp [Except.toOption]

theorem places_append (s : Store) (paths more : List Text) :
    s.places (paths ++ more) = s.places paths ++ s.places more := List.filterMap_append

theorem Names.places_singleton (h : Names s path l) : s.places [path] = [l] := by
  simp [places, h.leads, Except.toOption]

/-- Paths that name locations name the same ones in every store with the same directories. -/
theorem places_eq {paths : List Text} (h : ∀ path ∈ paths, ∃ l, Names s path l)
    (ht : SameTree s t) : t.places paths = s.places paths := by
  induction paths with
  | nil => rfl
  | cons path rest ih =>
    obtain ⟨l, hl⟩ := h path List.mem_cons_self
    have hrest := ih fun p hp => h p (List.mem_cons_of_mem _ hp)
    simp only [places, List.filterMap_cons, hl.leads, (hl.mono ht).leads, Except.toOption]
    exact congrArg (l :: ·) hrest

/-! ## Paths below a directory -/

theorem getLast?_join {directory name : Text} (hname : name ≠ []) (hslash : Path.slash ∉ name) :
    (Path.join directory name).getLast? = name.getLast? := by
  obtain ⟨c, t, rfl⟩ := List.exists_cons_of_ne_nil hname
  have hhead : c ≠ Path.slash := fun h => hslash (h ▸ List.mem_cons_self)
  simp only [Path.join, Path.isAbsolute, List.head?_cons, Option.some.injEq, hhead, decide_false,
    Bool.false_eq_true, if_false]
  split <;> simp [List.getLast?_append, List.getLast?_cons]

/-- **The last name of a path below a directory is the one that was put there.** -/
theorem namesOf_join_getLast? {directory name : Text} (hname : name ≠ [])
    (hslash : Path.slash ∉ name) :
    (namesOf (Path.join directory name)).getLast? = some name := by
  have hend : (Path.join directory name).getLast? ≠ some Path.slash := by
    rw [getLast?_join hname hslash]
    exact fun h => hslash (List.mem_of_getLast? h)
  have hone : Text.splitOn Path.slash name = [name] := Text.splitOn_of_notMem hslash
  -- the path is the name alone, or something before a slash and the name after it
  have hform : Path.join directory name = name ∨
      ∃ front, Path.join directory name = front ++ Path.slash :: name := by
    unfold Path.join
    split
    · exact .inl rfl
    · split
      · rename_i h
        simp only [Bool.or_eq_true, List.isEmpty_iff, decide_eq_true_eq] at h
        rcases h with rfl | h
        · exact .inl rfl
        · obtain ⟨front, rfl⟩ := List.getLast?_eq_some_iff.1 h
          exact .inr ⟨front, by simp⟩
      · exact .inr ⟨directory, rfl⟩
  unfold namesOf
  rw [if_neg hend]
  rcases hform with h | ⟨front, h⟩
  · rw [h, hone]
    simp [hname]
  · rw [h, Text.splitOn_append, hone, List.filter_append]
    simp [hname]

end Store

end CampaignDesk
