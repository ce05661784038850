import CampaignDesk.Path.Lexical
import CampaignDesk.Proofs.Text.Pieces

/-!
# The normal form of a path

Normalizing runs through the names of a path and keeps a stack of those that count.

* `Reduced`: a stack in which no name cancels another. `Reduced.push` is what one name does to it,
  `reduced_foldl` what the names of a path do.
* `Reduced.foldl_reverse`: the names of a reduced stack give the stack back.
* `normalize_normalize`: **normalizing a path that is normal changes nothing**, whatever the path.
* `resolve_plain`: **seen from a working directory, a relative path is the root or names one entry below
  another**, without an empty name, `.` or `..`.
* `resolve_eq_iff`: **two relative paths are written the same way exactly if they lead along the same
  names.**
-/

namespace CampaignDesk.Path

variable {rooted : Bool} {kept names : List Text} {name path p q d : Text} {k : Nat}

/-! ## Stacks of names -/

/-- A name of an entry in a directory. -/
structure IsName (name : Text) : Prop where
  nonempty : name ≠ []
  notDot : name ≠ dot
  notDotDot : name ≠ dotDot
  noSlash : slash ∉ name

/-- A stack of names, the last one first, in which none cancels another: going up comes before every
name, and at the root not at all. -/
inductive Reduced (rooted : Bool) : List Text → Prop
  | nil : Reduced rooted []
  | up {kept : List Text} : rooted = false → (∀ last ∈ kept.head?, last = dotDot) →
      Reduced rooted kept → Reduced rooted (dotDot :: kept)
  | name {name : Text} {kept : List Text} : IsName name → Reduced rooted kept →
      Reduced rooted (name :: kept)

theorem push_nil (rooted : Bool) (kept : List Text) : push rooted kept [] = kept := rfl

theorem push_dot (rooted : Bool) (kept : List Text) : push rooted kept dot = kept := rfl

theorem push_name (h : IsName name) (rooted : Bool) (kept : List Text) :
    push rooted kept name = name :: kept := by
  have hpassed : ¬ (name.isEmpty || decide (name = dot)) = true := by
    simp [h.nonempty, h.notDot]
  rw [push.eq_def, if_neg hpassed, if_neg h.notDotDot]

/-- Going up from a name drops it. -/
theorem push_dotDot_name (h : IsName name) (rooted : Bool) (kept : List Text) :
    push rooted (name :: kept) dotDot = kept := by
  change (if name = dotDot then dotDot :: name :: kept else kept) = kept
  exact if_neg h.notDotDot

/-- Going up from where no name is left stays, or is kept where there is no root. -/
theorem push_dotDot_up (h : ∀ last ∈ kept.head?, last = dotDot) :
    push false kept dotDot = dotDot :: kept := by
  cases kept with
  | nil => rfl
  | cons last rest =>
    have hlast : last = dotDot := h last rfl
    subst hlast
    rfl

theorem eq_dotDot_of_head (kept : List Text) :
    ∀ last ∈ (dotDot :: kept).head?, last = dotDot := fun _ h => (Option.some.inj h).symm

/-- **One more name keeps a stack reduced.** -/
theorem Reduced.push (h : Reduced rooted kept) (hname : slash ∉ name) :
    Reduced rooted (push rooted kept name) := by
  by_cases hempty : name = []
  · rw [hempty, push_nil]
    exact h
  by_cases hdot : name = dot
  · rw [hdot, push_dot]
    exact h
  by_cases hdots : name = dotDot
  · subst hdots
    cases h with
    | nil =>
      cases rooted with
      | false => exact .up rfl nofun .nil
      | true => exact .nil
    | up hfree hbelow hkept =>
      subst hfree
      rw [push_dotDot_up (eq_dotDot_of_head _)]
      exact .up rfl (eq_dotDot_of_head _) (.up rfl hbelow hkept)
    | name hlast hkept =>
      rw [push_dotDot_name hlast]
      exact hkept
  · have hproper : IsName name := ⟨hempty, hdot, hdots, hname⟩
    rw [push_name hproper]
    exact .name hproper h

/-- **A run of names keeps a stack reduced.** -/
theorem reduced_foldl (h : Reduced rooted kept) (hnames : ∀ name ∈ names, slash ∉ name) :
    Reduced rooted (names.foldl (Path.push rooted) kept) := by
  induction names generalizing kept with
  | nil => exact h
  | cons name names ih =>
    have hpush := h.push (hnames name List.mem_cons_self)
    exact ih hpush fun n hn => hnames n (List.mem_cons_of_mem name hn)

/-- The last name of a reduced stack is put on what is below it. -/
theorem Reduced.push_head (h : Reduced rooted (name :: kept)) :
    Path.push rooted kept name = name :: kept ∧ Reduced rooted kept := by
  cases h with
  | up hfree hbelow hkept =>
    subst hfree
    exact ⟨push_dotDot_up hbelow, hkept⟩
  | name hname hkept => exact ⟨push_name hname rooted kept, hkept⟩

/-- **The names of a reduced stack give the stack back.** -/
theorem Reduced.foldl_reverse (h : Reduced rooted kept) :
    kept.reverse.foldl (Path.push rooted) [] = kept := by
  induction kept with
  | nil => rfl
  | cons name kept ih =>
    obtain ⟨hpush, hkept⟩ := h.push_head
    rw [List.reverse_cons, List.foldl_append, ih hkept, List.foldl_cons, List.foldl_nil, hpush]

/-- No name of a reduced stack is empty or has a slash. -/
theorem Reduced.mem (h : Reduced rooted kept) (hname : name ∈ kept) : name ≠ [] ∧ slash ∉ name := by
  induction h with
  | nil => cases hname
  | up _ _ _ ih =>
    rcases List.mem_cons.1 hname with rfl | hname
    · exact ⟨nofun, by decide⟩
    · exact ih hname
  | name hproper _ ih =>
    rcases List.mem_cons.1 hname with rfl | hname
    · exact ⟨hproper.nonempty, hproper.noSlash⟩
    · exact ih hname

/-- At the root every name is one of an entry. -/
theorem Reduced.isName (h : Reduced true kept) (hname : name ∈ kept) : IsName name := by
  induction h with
  | nil => cases hname
  | up hfree => cases hfree
  | name hproper _ ih =>
    rcases List.mem_cons.1 hname with rfl | hname
    · exact hproper
    · exact ih hname

/-! ## Names below slashes -/

/-- Empty names do nothing. -/
theorem foldl_push_replicate (rooted : Bool) (k : Nat) (kept : List Text) :
    (List.replicate k []).foldl (push rooted) kept = kept := by
  induction k with
  | zero => rfl
  | succ k ih =>
    rw [List.replicate_succ, List.foldl_cons, push_nil]
    exact ih

/-- Names written one below the other, after some slashes. -/
def spelled (k : Nat) (names : List Text) : Text :=
  List.replicate k slash ++ Text.join [slash] names

/-- What names are written as does not start with a slash. -/
theorem head?_join (h : ∀ name ∈ names, name ≠ [] ∧ slash ∉ name) :
    (Text.join [slash] names).head? ≠ some slash := by
  have hfirst : ∀ {c : CodePoint} {t : Text}, c :: t ∈ names → c ≠ slash :=
    fun hmem hc => (h _ hmem).2 (hc ▸ List.mem_cons_self)
  cases names with
  | nil => exact nofun
  | cons name rest =>
    have hname := (h name List.mem_cons_self).1
    obtain ⟨c, t, rfl⟩ := List.exists_cons_of_ne_nil hname
    have hc : c ≠ slash := hfirst List.mem_cons_self
    cases rest <;> simpa [Text.join] using hc

theorem isAbsolute_spelled (h : ∀ name ∈ names, name ≠ [] ∧ slash ∉ name) :
    isAbsolute (spelled k names) = decide (0 < k) := by
  cases k with
  | zero => exact decide_eq_false (head?_join h)
  | succ k => simp [spelled, isAbsolute, List.replicate_succ]

theorem takeWhile_spelled (h : ∀ name ∈ names, name ≠ [] ∧ slash ∉ name) :
    (spelled k names).takeWhile (· = slash) = List.replicate k slash := by
  have hrest : (Text.join [slash] names).takeWhile (· = slash) = [] := by
    have hhead := head?_join h
    cases hjoin : Text.join [slash] names with
    | nil => rfl
    | cons c t =>
      rw [hjoin, List.head?_cons, ne_eq, Option.some.injEq] at hhead
      simp [hhead]
  rw [spelled, List.takeWhile_append_of_pos, hrest, List.append_nil]
  intro c hc
  simpa using List.eq_of_mem_replicate hc

theorem root_spelled (h : ∀ name ∈ names, name ≠ [] ∧ slash ∉ name) (hk : k ≤ 2) :
    root (spelled k names) = List.replicate k slash := by
  rw [root, takeWhile_spelled h]
  match k, hk with
  | 0, _ => rfl
  | 1, _ => rfl
  | 2, _ => rfl

/-- **The names of a reduced stack are read off the path that they are written as.** -/
theorem names_spelled (h : Reduced (decide (0 < k)) kept) :
    Path.names (spelled k kept.reverse) = kept.reverse := by
  have hclean : ∀ name ∈ kept.reverse, name ≠ [] ∧ slash ∉ name :=
    fun name hname => h.mem (List.mem_reverse.1 hname)
  have hpieces : (Text.splitOn slash (Text.join [slash] kept.reverse)).foldl
      (push (decide (0 < k))) [] = kept := by
    by_cases hempty : kept.reverse = []
    · rw [hempty, List.reverse_eq_nil_iff.1 hempty]
      rfl
    · rw [Text.splitOn_join hempty fun name hname => (hclean name hname).2]
      exact h.foldl_reverse
  rw [Path.names, isAbsolute_spelled hclean, spelled, Text.splitOn_replicate_append,
    List.foldl_append, foldl_push_replicate, hpieces]

/-! ## Normal paths -/

/-- The names that count in a path are reduced. -/
theorem reduced_names (path : Text) : Reduced (isAbsolute path) (Path.names path).reverse := by
  rw [Path.names, List.reverse_reverse]
  exact reduced_foldl .nil fun name hname => Text.notMem_of_mem_splitOn hname

/-- A path keeps one or two slashes in front if it starts at the root, and none otherwise. -/
theorem root_cases (path : Text) :
    ∃ k ≤ 2, root path = List.replicate k slash ∧ isAbsolute path = decide (0 < k) := by
  have hstart : isAbsolute path = !(path.takeWhile (· = slash)).isEmpty := by
    cases path with
    | nil => rfl
    | cons c t => by_cases hc : c = slash <;> simp [isAbsolute, hc]
  unfold root
  rw [hstart]
  split
  case h_1 h => exact ⟨0, by omega, rfl, by rw [h]; rfl⟩
  case h_2 h => exact ⟨2, by omega, rfl, by rw [h]; rfl⟩
  case h_3 h _ => exact ⟨1, by omega, rfl, by simpa using h⟩

/-- A path is normalized to its names, or to the directory itself if there is nothing to write. -/
theorem normalize_cases (path : Text) :
    ∃ k ≤ 2, isAbsolute path = decide (0 < k) ∧ root path = List.replicate k slash ∧
      normalize path = if spelled k (Path.names path) = [] then dot
        else spelled k (Path.names path) := by
  obtain ⟨k, hk, hroot, habsolute⟩ := root_cases path
  refine ⟨k, hk, habsolute, hroot, ?_⟩
  unfold normalize
  simp only [hroot, List.isEmpty_iff]
  rfl

/-- **Normalizing keeps a path at the root, or away from it.** -/
theorem isAbsolute_normalize (path : Text) : isAbsolute (normalize path) = isAbsolute path := by
  obtain ⟨k, -, habsolute, -, hnormal⟩ := normalize_cases path
  have hclean : ∀ name ∈ Path.names path, name ≠ [] ∧ slash ∉ name :=
    fun name hname => (reduced_names path).mem (List.mem_reverse.2 hname)
  have hspelled := isAbsolute_spelled (k := k) hclean
  rw [hnormal]
  split
  · next hempty =>
    rw [habsolute, ← hspelled, hempty]
    rfl
  · rw [hspelled, habsolute]

/-- **Normalizing a path that is normal changes nothing.** -/
theorem normalize_normalize (path : Text) : normalize (normalize path) = normalize path := by
  obtain ⟨k, hk, habsolute, -, hnormal⟩ := normalize_cases path
  have hreduced : Reduced (decide (0 < k)) (Path.names path).reverse := habsolute ▸ reduced_names path
  have hclean : ∀ name ∈ Path.names path, name ≠ [] ∧ slash ∉ name :=
    fun name hname => hreduced.mem (List.mem_reverse.2 hname)
  have hnames : Path.names (spelled k (Path.names path)) = Path.names path := by
    have h := names_spelled hreduced
    rwa [List.reverse_reverse] at h
  rw [hnormal]
  split
  · rfl
  · next hwritten =>
    -- what is written has the same slashes in front and the same names
    have hroot := root_spelled hclean hk
    unfold normalize
    simp only [hroot, hnames, List.isEmpty_iff]
    exact if_neg hwritten

/-! ## Paths seen from a working directory -/

/-- The names that a path leads along from a stack of names below the root. -/
def along (kept : List Text) (path : Text) : List Text :=
  (Text.splitOn slash path).foldl (push true) kept

/-- The root, or the path of an entry: each name below the first slash is one of an entry. -/
def Plain (path : Text) : Prop :=
  path = [slash] ∨ ∃ below, path = slash :: below ∧ ∀ name ∈ Text.splitOn slash below, IsName name

/-- A path below a directory is the directory, a slash that may be its last one, and the path. -/
theorem join_cases (hd : isAbsolute d = true) (hp : isAbsolute p = false) :
    ∃ front, join d p = front ++ slash :: p ∧ (d = front ∨ d = front ++ [slash]) := by
  unfold join
  rw [hp]
  by_cases hlast : d.getLast? = some slash
  · obtain ⟨front, rfl⟩ := List.getLast?_eq_some_iff.1 hlast
    exact ⟨front, by simp, .inr rfl⟩
  · have hne : d ≠ [] := by
      rintro rfl
      cases hd
    exact ⟨d, by simp [hlast, hne], .inl rfl⟩

theorem isAbsolute_join (hd : isAbsolute d = true) : isAbsolute (join d p) = true := by
  rcases hp : isAbsolute p
  · obtain ⟨c, t, rfl⟩ := List.exists_cons_of_ne_nil (fun h : d = [] => by rw [h] at hd; cases hd)
    have hc : c = slash := by simpa [isAbsolute] using hd
    subst hc
    simp only [join, hp, Bool.false_eq_true, if_false]
    split <;> simp [isAbsolute]
  · rw [join, if_pos hp, hp]

/-- **A relative path leads along its names from those of the working directory.** -/
theorem names_join (hd : isAbsolute d = true) (hp : isAbsolute p = false) :
    Path.names (join d p) = (along (Path.names d).reverse p).reverse := by
  obtain ⟨front, hjoin, hfront⟩ := join_cases hd hp
  have hstart : (Text.splitOn slash d).foldl (push true) [] =
      (Text.splitOn slash front).foldl (push true) [] := by
    rcases hfront with rfl | rfl
    · rfl
    · rw [Text.splitOn_append, List.foldl_append]
      rfl
  have hdir : (Path.names d).reverse = (Text.splitOn slash front).foldl (push true) [] := by
    rw [Path.names, List.reverse_reverse, hd, hstart]
  rw [Path.names, isAbsolute_join hd, along, hdir, hjoin, Text.splitOn_append, List.foldl_append]

/-- A directory that does not start with two slashes lets one slash stand in front. -/
theorem root_join (hd : isAbsolute d = true) (htwo : ¬ [slash, slash] <+: d)
    (hp : isAbsolute p = false) : root (join d p) = [slash] := by
  have hone : (join d p).takeWhile (· = slash) = [slash] := by
    match d, hd, htwo with
    | [c], hd, _ =>
      have hc : c = slash := by simpa [isAbsolute] using hd
      subst hc
      cases p with
      | nil => rfl
      | cons a t =>
        have ha : a ≠ slash := by simpa [isAbsolute] using hp
        simp [join, isAbsolute, ha]
    | c :: c' :: t, hd, htwo =>
      have hc : c = slash := by simpa [isAbsolute] using hd
      subst hc
      have hc' : c' ≠ slash := fun h => htwo ⟨t, by rw [h]; rfl⟩
      simp only [join, hp, Bool.false_eq_true, if_false]
      split <;> simp [hc']
  rw [root, hone]

/-- A relative path is written as one slash and the names that it leads along. -/
theorem resolve_eq (hd : isAbsolute d = true) (htwo : ¬ [slash, slash] <+: d)
    (hp : isAbsolute p = false) :
    resolve d p = spelled 1 (along (Path.names d).reverse p).reverse := by
  rw [resolve, normalize]
  simp only [root_join hd htwo hp, names_join hd hp]
  rfl

/-- The names along a path from a working directory are those of entries. -/
theorem reduced_along (hd : isAbsolute d = true) (p : Text) :
    Reduced true (along (Path.names d).reverse p) :=
  reduced_foldl (hd ▸ reduced_names d) fun _ hname => Text.notMem_of_mem_splitOn hname

/-- **Seen from a working directory, a relative path is the root or names one entry below another.** -/
theorem resolve_plain (hd : isAbsolute d = true) (htwo : ¬ [slash, slash] <+: d)
    (hp : isAbsolute p = false) : Plain (resolve d p) := by
  have hreduced := reduced_along hd p
  have hproper : ∀ name ∈ (along (Path.names d).reverse p).reverse, IsName name :=
    fun name hname => hreduced.isName (List.mem_reverse.1 hname)
  rw [resolve_eq hd htwo hp]
  by_cases hempty : (along (Path.names d).reverse p).reverse = []
  · rw [hempty]
    exact .inl rfl
  · refine .inr ⟨Text.join [slash] (along (Path.names d).reverse p).reverse, rfl, ?_⟩
    rw [Text.splitOn_join hempty fun name hname => (hproper name hname).noSlash]
    exact hproper

/-- **Two relative paths are written the same way exactly if they lead along the same names.** -/
theorem resolve_eq_iff (hd : isAbsolute d = true) (htwo : ¬ [slash, slash] <+: d)
    (hp : isAbsolute p = false) (hq : isAbsolute q = false) :
    resolve d p = resolve d q ↔
      along (Path.names d).reverse p = along (Path.names d).reverse q := by
  rw [resolve_eq hd htwo hp, resolve_eq hd htwo hq]
  constructor
  · intro h
    have hnames := congrArg Path.names h
    rw [names_spelled (k := 1) (reduced_along hd p), names_spelled (k := 1) (reduced_along hd q)]
      at hnames
    exact List.reverse_inj.1 hnames
  · intro h
    rw [h]

theorem isAbsolute_resolve (hd : isAbsolute d = true) (p : Text) :
    isAbsolute (resolve d p) = true := by
  rw [resolve, isAbsolute_normalize, isAbsolute_join hd]

end CampaignDesk.Path
