import CampaignDesk.Proofs.Order.Refusals
import CampaignDesk.Proofs.Path.Normal

/-!
# Each attachment once

Attachments are collected one after the other, and one that has been kept is not kept again.

* `Attachments.gathered`: what is collected, said without a loop: the entries that are not blank, each
  as it is seen from the working directory, the first of equal ones.
* `foldlM_keep?`: what a run of entries adds to the paths that are kept.
* `each_path_once`: **the attachments of an order are what is gathered**; they hold no path twice and no
  blank one, collecting them again changes nothing, two lists are collected one after the other, and
  where the working directory can be told, every one of them starts at the root and equal places are
  written equally.
-/

/-! ## The first of equal elements -/

namespace List

variable {α : Type} [BEq α] [LawfulBEq α]

/-- Elements may be left out before or after duplicates are. -/
theorem eraseDups_filter (keep : α → Bool) (l : List α) :
    (l.filter keep).eraseDups = l.eraseDups.filter keep := by
  -- what is left of the list after its head is shorter, but no tail
  induction hn : l.length using Nat.strongRecOn generalizing l with
  | ind n ih =>
    cases l with
    | nil => rfl
    | cons a l =>
      have hshorter : (l.filter fun b => !b == a).length < n := by
        have hle := List.length_filter_le (fun b => !b == a) l
        rw [List.length_cons] at hn
        omega
      have hrest := ih _ hshorter (l.filter fun b => !b == a) rfl
      rw [List.eraseDups_cons, List.filter_cons, List.filter_cons, ← hrest, List.filter_filter]
      by_cases ha : keep a = true
      · rw [if_pos ha, if_pos ha, List.eraseDups_cons, List.filter_filter]
        congr 3
        funext b
        exact Bool.and_comm _ _
      · rw [if_neg ha, if_neg ha]
        congr 1
        refine List.filter_congr fun b _ => ?_
        by_cases hb : b = a
        · subst hb
          simp [ha]
        · simp [hb]

theorem nodup_eraseDups (l : List α) : l.eraseDups.Nodup := by
  induction l with
  | nil => exact List.nodup_nil
  | cons a l ih =>
    rw [List.eraseDups_cons, eraseDups_filter]
    refine List.nodup_cons.2 ⟨?_, ih.filter _⟩
    simp

theorem eraseDups_of_nodup {l : List α} (h : l.Nodup) : l.eraseDups = l := by
  induction l with
  | nil => rfl
  | cons a l ih =>
    obtain ⟨ha, hl⟩ := List.nodup_cons.1 h
    have hkeep : (l.filter fun b => !b == a) = l := by
      refine List.filter_eq_self.2 fun b hb => ?_
      have hne : b ≠ a := fun h => ha (h ▸ hb)
      simpa using hne
    rw [List.eraseDups_cons, hkeep, ih hl]

end List

namespace CampaignDesk.Attachments

open Preparation (inline? inline?_eq_some)

variable {cwd : Except Failure Text} {entries more : List Value} {kept : List Text} {path d : Text}

/-! ## What is gathered -/

/-- A path as it is seen from the working directory, if that can be told. -/
def seen (cwd : Except Failure Text) (path : Text) : Text :=
  if Path.isAbsolute path then path
  else
    match cwd with
    | .ok directory => Path.resolve directory path
    | .error _ => path

/-- The entries that are not blank, each as it is seen from the working directory. -/
def sights (cwd : Except Failure Text) (entries : List Value) : List Text :=
  (entries.filterMap inline?).map (seen cwd)

/-- What a list of attachments comes to. -/
def gathered (cwd : Except Failure Text) (entries : List Value) : List Text :=
  (sights cwd entries).eraseDups

theorem resolved?_eq
    (hcwd : ∀ f, cwd = .error f → (f.kind.isA .osError || f.kind.isA .valueError) = true)
    (path : Text) : resolved? cwd path = .ok (seen cwd path) := by
  unfold resolved? seen
  by_cases h : Path.isAbsolute path = true
  · rw [if_pos h, if_pos h]
  · rw [if_neg h, if_neg h]
    cases cwd with
    | ok directory => rfl
    | error f => exact if_pos (hcwd f rfl)

/-! ## Collecting -/

section Collecting

variable (hcwd : ∀ f, cwd = .error f → (f.kind.isA .osError || f.kind.isA .valueError) = true)

include hcwd

/-- What one entry adds to the paths that are kept. -/
theorem keep?_eq {entry : Value} (h : entry.IsText) (kept : List Text) :
    keep? cwd kept entry = .ok (match inline? entry with
      | none => kept
      | some path => if kept.contains (seen cwd path) then kept else kept ++ [seen cwd path]) := by
  rcases h with rfl | ⟨path, rfl⟩
  · rfl
  · by_cases hblank : path.isBlank = true
    · simp [keep?, inline?, hblank]
    · simp [keep?, inline?, hblank, resolved?_eq hcwd, bind, Except.bind, pure, Except.pure]

/-- **What a run of entries adds to the paths that are kept**: those that it sees and that are not kept
yet, each once. -/
theorem foldlM_keep? (h : ∀ x ∈ entries, x.IsText) (kept : List Text) :
    entries.foldlM (keep? cwd) kept =
      .ok (kept ++ ((sights cwd entries).removeAll kept).eraseDups) := by
  induction entries generalizing kept with
  | nil => simp [sights, pure, Except.pure]
  | cons entry entries ih =>
    obtain ⟨hentry, hrest⟩ := List.forall_mem_cons.1 h
    rw [List.foldlM_cons, keep?_eq hcwd hentry]
    simp only [bind, Except.bind]
    rcases hinline : inline? entry with _ | path
    · -- an entry that is blank adds nothing
      have hsights : sights cwd (entry :: entries) = sights cwd entries := by
        simp [sights, hinline]
      rw [hsights]
      exact ih hrest kept
    have hsights : sights cwd (entry :: entries) = seen cwd path :: sights cwd entries := by
      simp [sights, hinline]
    rw [hsights, List.cons_removeAll]
    cases hmem : kept.contains (seen cwd path) with
    | true =>
      simp only [hmem, if_true, Bool.true_eq_false, if_false]
      exact ih hrest kept
    | false =>
      simp only [hmem, if_true, Bool.false_eq_true, if_false]
      -- what is kept now is what was kept before and the path
      have hstep : (sights cwd entries).removeAll (kept ++ [seen cwd path]) =
          ((sights cwd entries).removeAll kept).filter fun p => !p == seen cwd path := by
        rw [List.removeAll, List.removeAll, List.filter_filter]
        refine List.filter_congr fun p _ => ?_
        by_cases hp : p = seen cwd path <;> simp [hp]
      rw [ih hrest, hstep, List.append_assoc, List.singleton_append, ← List.eraseDups_cons]

theorem normalize?_list (h : ∀ x ∈ entries, x.IsText) :
    normalize? cwd (.list entries) = .ok (gathered cwd entries) := by
  have hcollect : normalize? cwd (.list entries) = entries.foldlM (keep? cwd) [] := by
    cases entries <;> rfl
  rw [hcollect, foldlM_keep? hcwd h, List.removeAll_nil, List.nil_append, gathered]

end Collecting

/-! ## What is gathered holds each path once -/

/-- **Two lists are gathered one after the other**, the second without what the first has. -/
theorem gathered_append (cwd : Except Failure Text) (entries more : List Value) :
    gathered cwd (entries ++ more) =
      gathered cwd entries ++ (gathered cwd more).removeAll (gathered cwd entries) := by
  have hsights : sights cwd (entries ++ more) = sights cwd entries ++ sights cwd more := by
    simp only [sights, List.filterMap_append, List.map_append]
  rw [gathered, hsights, List.eraseDups_append, List.removeAll, List.eraseDups_filter]
  refine congrArg (gathered cwd entries ++ ·) (List.filter_congr fun p _ => ?_)
  simp [gathered]

theorem mem_gathered {p : Text} :
    p ∈ gathered cwd entries ↔ ∃ path, (∃ x ∈ entries, inline? x = some path) ∧ seen cwd path = p := by
  simp [gathered, sights]

/-- A path that starts at the root is not blank. -/
theorem not_isBlank_of_isAbsolute (h : Path.isAbsolute path = true) : path.isBlank = false := by
  cases path with
  | nil => cases h
  | cons c t =>
    have hc : c = Path.slash := by simpa [Path.isAbsolute] using h
    subst hc
    rfl

theorem not_isBlank_of_inline? {v : Value} (h : inline? v = some path) : path.isBlank = false := by
  have hv := inline?_eq_some h
  subst hv
  cases hblank : path.isBlank with
  | false => rfl
  | true => simp [inline?, hblank] at h

/-- Texts that are not blank are the entries that are not blank. -/
theorem filterMap_inline?_text {paths : List Text} (h : ∀ p ∈ paths, p.isBlank = false) :
    (paths.map Value.text).filterMap inline? = paths := by
  induction paths with
  | nil => rfl
  | cons p paths ih =>
    obtain ⟨hp, hrest⟩ := List.forall_mem_cons.1 h
    have hinline : inline? (.text p) = some p := by simp [inline?, hp]
    rw [List.map_cons, List.filterMap_cons, hinline, ih hrest]

section Seen

variable (hhome : ∀ d, cwd = .ok d → Path.isAbsolute d = true)

include hhome

/-- **What has been seen from the working directory is seen again as it is**, and is not blank. -/
theorem seen_seen (hblank : path.isBlank = false) :
    seen cwd (seen cwd path) = seen cwd path ∧ (seen cwd path).isBlank = false := by
  by_cases habsolute : Path.isAbsolute path = true
  · have hkept : seen cwd path = path := if_pos habsolute
    rw [hkept, hkept]
    exact ⟨rfl, hblank⟩
  · cases cwd with
    | ok d =>
      have hresolved : seen (.ok d) path = Path.resolve d path := if_neg habsolute
      have hstart : Path.isAbsolute (Path.resolve d path) = true :=
        Path.isAbsolute_resolve (hhome d rfl) path
      rw [hresolved]
      exact ⟨if_pos hstart, not_isBlank_of_isAbsolute hstart⟩
    | error f =>
      have hkept : seen (.error f) path = path := if_neg habsolute
      rw [hkept, hkept]
      exact ⟨rfl, hblank⟩

/-- Where the working directory can be told, everything that is gathered starts at the root. -/
theorem isAbsolute_gathered (hd : cwd = .ok d) {p : Text} (hp : p ∈ gathered cwd entries) :
    Path.isAbsolute p = true := by
  obtain ⟨path, -, rfl⟩ := mem_gathered.1 hp
  subst hd
  by_cases habsolute : Path.isAbsolute path = true
  · rw [seen, if_pos habsolute]
    exact habsolute
  · rw [seen, if_neg habsolute]
    exact Path.isAbsolute_resolve (hhome d rfl) path

theorem gathered_fixed {p : Text} (hp : p ∈ gathered cwd entries) :
    seen cwd p = p ∧ p.isBlank = false := by
  obtain ⟨path, ⟨x, -, hx⟩, rfl⟩ := mem_gathered.1 hp
  exact seen_seen hhome (not_isBlank_of_inline? hx)

/-- **What is gathered is gathered again as it is.** -/
theorem gathered_gathered (entries : List Value) :
    gathered cwd ((gathered cwd entries).map .text) = gathered cwd entries := by
  have hinline : ((gathered cwd entries).map Value.text).filterMap inline? = gathered cwd entries :=
    filterMap_inline?_text fun p hp => (gathered_fixed hhome hp).2
  have hseen : (gathered cwd entries).map (seen cwd) = gathered cwd entries :=
    (List.map_congr_left fun p hp => (gathered_fixed hhome hp).1).trans (List.map_id _)
  have hnodup : (gathered cwd entries).Nodup := List.nodup_eraseDups _
  calc gathered cwd ((gathered cwd entries).map .text)
      = (gathered cwd entries).eraseDups := by rw [gathered, sights, hinline, hseen]
    _ = gathered cwd entries := List.eraseDups_of_nodup hnodup

end Seen

/-! ## The attachments of an order -/

/-- How relative paths are written where the working directory does not start with two slashes: from
the root, with nothing in them that could be left out, and equally exactly if they lead along the same
names. -/
structure Located (d : Text) : Prop where
  plain : ∀ p, Path.isAbsolute p = false → Path.Plain (Path.resolve d p)
  normal : ∀ p, Path.normalize (Path.resolve d p) = Path.resolve d p
  same : ∀ p q, Path.isAbsolute p = false → Path.isAbsolute q = false →
    (Path.resolve d p = Path.resolve d q ↔
      Path.along (Path.names d).reverse p = Path.along (Path.names d).reverse q)

theorem located (hd : Path.isAbsolute d = true) (htwo : ¬ [Path.slash, Path.slash] <+: d) :
    Located d where
  plain _ hp := Path.resolve_plain hd htwo hp
  normal _ := Path.normalize_normalize _
  same _ _ hp hq := Path.resolve_eq_iff hd htwo hp hq

/-- **The attachments of an order are what is gathered from the form**: the entries that are not blank,
each as it is seen from the working directory, and the first of equal ones.

* No path comes twice, and none is blank.
* Collecting the paths again gives the same paths.
* A list after another adds what the other does not have.
* Where the working directory can be told, every path starts at the root; unless the directory itself
  starts with two slashes, relative paths are written in normal form, so that those that lead to one
  place come to one path. -/
theorem each_path_once
    (hcwd : ∀ f, cwd = .error f → (f.kind.isA .osError || f.kind.isA .valueError) = true)
    (hhome : ∀ d, cwd = .ok d → Path.isAbsolute d = true) (h : ∀ x ∈ entries, x.IsText) :
    normalize? cwd (.list entries) = .ok (gathered cwd entries) ∧
    (gathered cwd entries).Nodup ∧ (∀ p ∈ gathered cwd entries, p.isBlank = false) ∧
    normalize? cwd (.list ((gathered cwd entries).map .text)) = .ok (gathered cwd entries) ∧
    (∀ more : List Value, (∀ x ∈ more, x.IsText) → normalize? cwd (.list (entries ++ more)) =
      .ok (gathered cwd entries ++ (gathered cwd more).removeAll (gathered cwd entries))) ∧
    (∀ d, cwd = .ok d → (∀ p ∈ gathered cwd entries, Path.isAbsolute p = true) ∧
      (¬ [Path.slash, Path.slash] <+: d → Located d)) := by
  have hagain : normalize? cwd (.list ((gathered cwd entries).map .text)) =
      .ok (gathered cwd entries) := by
    have htexts : ∀ x ∈ (gathered cwd entries).map Value.text, x.IsText := by
      intro x hx
      obtain ⟨p, -, rfl⟩ := List.mem_map.1 hx
      exact .inr ⟨p, rfl⟩
    rw [normalize?_list hcwd htexts, gathered_gathered hhome]
  refine ⟨normalize?_list hcwd h, List.nodup_eraseDups _, fun p hp => (gathered_fixed hhome hp).2,
    hagain, ?_, ?_⟩
  · intro more hmore
    have hboth : ∀ x ∈ entries ++ more, x.IsText := by
      intro x hx
      rcases List.mem_append.1 hx with hx | hx
      · exact h x hx
      · exact hmore x hx
    rw [normalize?_list hcwd hboth, gathered_append]
  · intro d hd
    exact ⟨fun p hp => isAbsolute_gathered hhome hd hp, fun htwo => located (hhome d hd) htwo⟩

/-- Four ways to write one path below `/work`, something blank and nothing at all. -/
theorem each_path_once_sample :
    let entries : List Value :=
      [.text "a/../b", .null, .text "b", .text " ", .text "/work/b", .text ".//b", .text "../c"]
    normalize? (.ok "/work") (.list entries) = .ok [("/work/b" : Text), ("/c" : Text)] := by
  have hcwd : ∀ f, (.ok "/work" : Except Failure Text) = .error f →
      (f.kind.isA .osError || f.kind.isA .valueError) = true := nofun
  have hhome : ∀ d, (.ok "/work" : Except Failure Text) = .ok d → Path.isAbsolute d = true := by
    intro d hd
    cases hd
    decide
  intro entries
  have htexts : ∀ x ∈ entries, x.IsText := by
    simp [entries, Value.IsText]
  have hgathered : gathered (.ok "/work") entries = [("/work/b" : Text), ("/c" : Text)] := by
    decide +kernel
  exact (each_path_once hcwd hhome htexts).1.trans (congrArg Except.ok hgathered)

end CampaignDesk.Attachments
