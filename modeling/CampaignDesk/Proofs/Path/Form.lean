import CampaignDesk.Proofs.Path.Normal
import CampaignDesk.Settings.Home

/-!
# Paths in parts, written and read

* `PathForm.Proper`: parts as they are read off a path. Every way to put paths together keeps this, and
  `Environment.home?_proper`: **the home of the desk has it.**
* `PathForm.Proper.ofText_toText`: **proper parts are read off the path that they are written as.**
-/

namespace CampaignDesk

namespace PathForm

variable {p q : PathForm}

/-- Parts as they are read off a path: at most two slashes in front, and names that are neither empty
nor the directory itself. -/
structure Proper (p : PathForm) : Prop where
  root : ∃ k ≤ 2, p.root = List.replicate k Path.slash
  names : ∀ name ∈ p.names, name ≠ [] ∧ name ≠ Path.dot ∧ Path.slash ∉ name

theorem proper_ofText (path : Text) : (ofText path).Proper := by
  refine ⟨?_, fun name hname => ?_⟩
  · obtain ⟨k, hk, hroot, -⟩ := Path.root_cases path
    exact ⟨k, hk, hroot⟩
  · obtain ⟨hpiece, hkept⟩ := List.mem_filter.1 hname
    have hcounts : name ≠ [] ∧ name ≠ Path.dot := by simpa using hkept
    exact ⟨hcounts.1, hcounts.2, Text.notMem_of_mem_splitOn hpiece⟩

theorem Proper.withNames (hp : p.Proper) {more : List Text}
    (hmore : ∀ name ∈ more, name ≠ [] ∧ name ≠ Path.dot ∧ Path.slash ∉ name) :
    Proper { p with names := p.names ++ more } := by
  refine ⟨hp.root, fun name hname => ?_⟩
  rcases List.mem_append.1 hname with h | h
  · exact hp.names name h
  · exact hmore name h

theorem Proper.below (hp : p.Proper) (hq : q.Proper) : (p.below q).Proper := by
  unfold PathForm.below
  split
  · exact hq
  · exact hp.withNames hq.names

theorem Proper.expandHome? (hp : p.Proper) {home : Text} (h : p.expandHome? home = some q) :
    q.Proper := by
  unfold PathForm.expandHome? at h
  split at h
  · rename_i user rest hnames
    have hrest : ∀ name ∈ rest, name ≠ [] ∧ name ≠ Path.dot ∧ Path.slash ∉ name :=
      fun name hname => hp.names name (hnames ▸ List.mem_cons_of_mem _ hname)
    split at h
    · cases h
      exact hp
    · split at h
      · split at h
        · cases h
        · cases h
          exact (proper_ofText _).withNames hrest
      · cases h
  · cases h
    exact hp

/-- **Proper parts are read off the path that they are written as.** -/
theorem Proper.ofText_toText (hp : p.Proper) (hne : p.names ≠ []) : ofText p.toText = p := by
  obtain ⟨root, names⟩ := p
  obtain ⟨k, hk, rfl⟩ := hp.root
  have hnames : ∀ name ∈ names, name ≠ [] ∧ name ≠ Path.dot ∧ Path.slash ∉ name := hp.names
  have hclean : ∀ name ∈ names, name ≠ [] ∧ Path.slash ∉ name :=
    fun name hname => ⟨(hnames name hname).1, (hnames name hname).2.2⟩
  have hwritten : Path.spelled k names ≠ [] := by
    obtain ⟨name, rest, rfl⟩ := List.exists_cons_of_ne_nil hne
    have hname : name ≠ [] := (hclean name List.mem_cons_self).1
    cases rest <;> simp [Path.spelled, Text.join, hname]
  have htext : toText ⟨List.replicate k Path.slash, names⟩ = Path.spelled k names := by
    unfold toText
    simp only [List.isEmpty_iff]
    exact if_neg hwritten
  -- the slashes in front are empty names, which do not count
  have hkept : (Text.splitOn Path.slash (Path.spelled k names)).filter
      (fun n => !(n.isEmpty || n = Path.dot)) = names := by
    rw [Path.spelled, Text.splitOn_replicate_append, List.filter_append,
      Text.splitOn_join hne fun name hname => (hclean name hname).2]
    have hslashes : (List.replicate k ([] : Text)).filter (fun n => !(n.isEmpty || n = Path.dot)) = [] :=
      List.filter_eq_nil_iff.2 fun n hn => by rw [List.eq_of_mem_replicate hn]; decide
    have hall : names.filter (fun n => !(n.isEmpty || n = Path.dot)) = names :=
      List.filter_eq_self.2 fun n hn => by
        have hcounts := hnames n hn
        simp [hcounts.1, hcounts.2.1]
    rw [hslashes, hall, List.nil_append]
  rw [htext, ofText, Path.root_spelled hclean hk, hkept]

/-- A path whose last part is a name does not end with a slash. -/
theorem getLast?_toText {front : List Text} {name : Text} (hname : name ≠ [])
    (hslash : Path.slash ∉ name) (h : p.names = front ++ [name]) :
    p.toText.getLast? ≠ some Path.slash := by
  obtain ⟨before, hjoin⟩ := Text.join_append_singleton [Path.slash] front name
  have hwritten : (p.root ++ (before ++ name)).isEmpty = false := by simp [hname]
  unfold toText
  simp only [h, hjoin, hwritten, Bool.false_eq_true, if_false]
  intro hlast
  rw [← List.append_assoc, List.getLast?_append, List.getLast?_eq_some_getLast hname,
    Option.some_or, Option.some.injEq] at hlast
  exact hslash (hlast ▸ List.getLast_mem hname)

end PathForm

namespace Environment

variable {e : Environment} {home : PathForm}

/-- **The home of the desk is a proper path.** -/
theorem home?_proper (h : e.home? = .ok home) : home.Proper := by
  have hexpand {path q : PathForm} (hpath : path.Proper) (h : e.expand? path = .ok q) : q.Proper := by
    unfold expand? at h
    rcases hq : path.expandHome? e.userDirectory with _ | r <;> rw [hq] at h <;> cases h
    exact hpath.expandHome? hq
  unfold home? at h
  split at h
  · exact hexpand (PathForm.proper_ofText _) h
  · rcases hq : e.expand? (.ofText "~") with f | q <;> rw [hq] at h <;> cases h
    exact (hexpand (PathForm.proper_ofText _) hq).below (PathForm.proper_ofText _)

end Environment

end CampaignDesk
