import CampaignDesk.Proofs.Sample
import CampaignDesk.Proofs.TempFiles.Removal

/-!
# The first release does everything

A set of temporary files may be used in any order: paths are registered, files are written, whether that
succeeds or not, and the world changes meanwhile. Whatever has happened, the first release tries every
path that was registered; from then on the set is released, and releasing it does nothing any more.

* `Doing`: what can be done with a set; `after` is the set and the world when it has been done.
* `Unreleased`: what every history without a release keeps; `after_unreleased` by induction on it.
* `registered_write`: **a file that was made is registered, even if it could not be filled.**
* `after_released`: **a set that was released once stays so**, whatever is done with it.
* `first_release_is_complete`: the two assembled around the first release.
-/

namespace CampaignDesk.Drafting

open Store World Act

/-- What can be done with a set of temporary files, and what others may do meanwhile. -/
inductive Doing
  | add (path : Text)
  | write (content suffix label : Text)
  | release
  | meanwhile (change : World → World)

/-- The set and the world after an operation, however it ended. -/
def leaves {α : Type} (d : Drafting α) (s : TempFiles × World) : TempFiles × World :=
  ((d s.1 s.2).1.2, (d s.1 s.2).2)

/-- The set and the world after something was done. Failures are for whoever does it to handle, and
change nothing about the set. -/
def Doing.apply : Doing → TempFiles × World → TempFiles × World
  | .add path => leaves (Drafting.add path)
  | .write content suffix label => leaves (Drafting.write content suffix label)
  | .release => leaves Drafting.release
  | .meanwhile change => fun s => (s.1, change s.2)

/-- The set and the world after a history. -/
def after (history : List Doing) (s : TempFiles × World) : TempFiles × World :=
  history.foldl (fun s doing => doing.apply s) s

theorem after_append (earlier later : List Doing) (s : TempFiles × World) :
    after (earlier ++ later) s = after later (after earlier s) := List.foldl_append

/-! ## Before the first release -/

/-- Writing registers a path that the system takes, or leaves the set as it is. -/
theorem write_paths (content suffix label : Text) (s : TempFiles × World) :
    ((Doing.write content suffix label).apply s).1 = s.1 ∨ ∃ path : Text, path.Clean ∧
      ((Doing.write content suffix label).apply s).1 =
        { s.1 with paths := s.1.paths ++ [path] } := by
  obtain ⟨t, w⟩ := s
  rcases write_steps content suffix label t w with
    ⟨f, v, hrun, -⟩ | ⟨outcome, path, l, v, number, hrun, -, hcreated, -⟩
  · exact .inl (by simp only [Doing.apply, leaves, hrun])
  · exact .inr ⟨path, Path.refusal?_eq_none.1 hcreated.taken,
      by simp only [Doing.apply, leaves, hrun]⟩

/-- A set that is still to be released, with paths that the system takes. -/
structure Unreleased (t : TempFiles) : Prop where
  released : t.released = false
  clean : ∀ path ∈ t.paths, path.Clean

namespace Unreleased

theorem none (directory : Value) (stem : Text) : Unreleased (TempFiles.none directory stem) :=
  ⟨rfl, nofun⟩

theorem add {t : TempFiles} {path : Text} (h : Unreleased t) (hpath : path.Clean) :
    Unreleased { t with paths := t.paths ++ [path] } := by
  refine ⟨h.released, fun p hp => ?_⟩
  rcases List.mem_append.1 hp with hp | hp
  · exact h.clean p hp
  · cases List.mem_singleton.1 hp
    exact hpath

/-- One step: all but a release keep a set unreleased. -/
theorem apply {s : TempFiles × World} (h : Unreleased s.1) {doing : Doing}
    (hdoing : doing ≠ .release) (hadded : ∀ path, doing = .add path → path.Clean) :
    Unreleased (doing.apply s).1 := by
  cases doing with
  | add path => exact h.add (hadded path rfl)
  | write content suffix label =>
    rcases write_paths content suffix label s with hsame | ⟨path, hclean, hadd⟩
    · rw [hsame]
      exact h
    · rw [hadd]
      exact h.add hclean
  | release => exact absurd rfl hdoing
  | meanwhile change => exact h

end Unreleased

/-- **A set is unreleased as long as nobody releases it**, by induction on the history. -/
theorem after_unreleased {history : List Doing} {s : TempFiles × World} (h : Unreleased s.1)
    (hfirst : .release ∉ history) (hadded : ∀ path, .add path ∈ history → path.Clean) :
    Unreleased (after history s).1 := by
  induction history generalizing s with
  | nil => exact h
  | cons doing rest ih =>
    have hstep : Unreleased (doing.apply s).1 :=
      h.apply (fun heq => hfirst (heq ▸ List.mem_cons_self))
        fun path heq => hadded path (heq ▸ List.mem_cons_self)
    exact ih hstep (fun hmem => hfirst (List.mem_cons_of_mem _ hmem))
      fun path hmem => hadded path (List.mem_cons_of_mem _ hmem)

/-- Nothing that is done takes back a registration. -/
theorem apply_paths (doing : Doing) (s : TempFiles × World) :
    s.1.paths <+: (doing.apply s).1.paths := by
  cases doing with
  | add path => exact List.prefix_append _ _
  | write content suffix label =>
    rcases write_paths content suffix label s with hsame | ⟨path, -, hadd⟩
    · exact ⟨[], by rw [List.append_nil, hsame]⟩
    · rw [hadd]
      exact List.prefix_append _ _
  | release =>
    obtain ⟨t, w⟩ := s
    simp only [Doing.apply, leaves, Drafting.release, bind_apply, get_apply]
    cases t.released <;> exact List.prefix_refl _
  | meanwhile change => exact List.prefix_refl _

theorem after_paths (history : List Doing) (s : TempFiles × World) :
    s.1.paths <+: (after history s).1.paths := by
  induction history generalizing s with
  | nil => exact List.prefix_refl _
  | cons doing rest ih => exact (apply_paths doing s).trans (ih (doing.apply s))

/-- What was done from `s` to `s'` has registered what it had to: a path that was added; and of a file
that was to be written the path, as soon as the file is there. -/
def Registered (doing : Doing) (s s' : TempFiles × World) : Prop :=
  match doing with
  | .add path => s'.1.paths = s.1.paths ++ [path]
  | .write content suffix label =>
    ((∃ f, (Drafting.write content suffix label s.1 s.2).1.1 = .error f) ∧ s'.1 = s.1 ∧
      s.2.SameFiles s'.2) ∨
    ∃ path l, s'.1.paths = s.1.paths ++ [path] ∧ Created s.2 path l s'.2
  | .release | .meanwhile _ => s'.1.paths = s.1.paths

/-- **A file that was made is registered, even if it could not be filled.** -/
theorem registered_write (content suffix label : Text) (s : TempFiles × World) :
    Registered (.write content suffix label) s ((Doing.write content suffix label).apply s) := by
  obtain ⟨t, w⟩ := s
  simp only [Registered, Doing.apply, leaves]
  rcases write_steps content suffix label t w with
    ⟨f, v, hrun, hsame⟩ | ⟨outcome, path, l, v, number, hrun, -, hcreated, -⟩ <;> rw [hrun]
  · exact .inl ⟨⟨f, rfl⟩, rfl, hsame⟩
  · exact .inr ⟨path, l, rfl, hcreated⟩

theorem registered (doing : Doing) (s : TempFiles × World) :
    Registered doing s (doing.apply s) := by
  cases doing with
  | add path => exact rfl
  | write content suffix label => exact registered_write content suffix label s
  | release =>
    obtain ⟨t, w⟩ := s
    simp only [Registered, Doing.apply, leaves, Drafting.release, bind_apply, get_apply]
    cases t.released <;> rfl
  | meanwhile change => exact rfl

/-! ## After it -/

/-- Releasing a set that was released does nothing. -/
theorem release_again {t : TempFiles} (ht : t.released = true) (w : World) :
    Drafting.release t w = ((.ok (), t), w) := by
  simp only [Drafting.release, bind_apply, get_apply, ht]
  rfl

/-- Leaving a block that ends with a release is leaving the block. -/
theorem ensure_release_again {α : Type} {t : TempFiles} (ht : t.released = true) (act : Act α)
    (w : World) : Act.ensure act t.release w = act w := by
  have hrelease (v : World) : t.release v = (.ok (), v) := by
    simp only [TempFiles.release, TempFiles.run, release_again ht, Act.bind_apply, settle_apply]
  rw [ensure_apply, hrelease]
  rfl

theorem apply_released {s : TempFiles × World} (h : s.1.released = true) (doing : Doing) :
    (doing.apply s).1.released = true := by
  cases doing with
  | add path => exact h
  | write content suffix label =>
    rcases write_paths content suffix label s with hsame | ⟨path, -, hadd⟩
    · rw [hsame]
      exact h
    · rw [hadd]
      exact h
  | release =>
    simp only [Doing.apply, leaves, release_again h]
    exact h
  | meanwhile change => exact h

/-- **A set that was released once stays so**, by induction on what is done with it later. -/
theorem after_released {s : TempFiles × World} (h : s.1.released = true) (later : List Doing) :
    (after later s).1.released = true := by
  induction later generalizing s with
  | nil => exact h
  | cons doing rest ih => exact ih (apply_released h doing)

/-! ## The first release -/

/-- What the first release of a set does: every path is tried in the order of registration, what the
system refuses is passed over; **a file that a path names is left exactly if every attempt on it failed**,
which is when a fault is set for each of them; and all other files stay as they were. -/
structure Complete (t : TempFiles) (w : World) (attempts : List Attempt) (v : World) : Prop where
  ended : Drafting.release t w = ((.ok (), { t with released := true }), v)
  left : t.release w = (.ok (), v)
  tried : attempts.map Attempt.path = t.paths ∧ Removals w attempts v
  once : v.counts .remove = w.counts .remove + t.paths.length
  refused : ∀ a ∈ attempts, ∀ f, a.outcome = .error f → f.kind.isA .osError = true
  stays : ∀ l content, w.store.node? l = some (.file content) →
    ((∃ content', v.store.node? l = some (.file content')) ↔
      ∀ a ∈ attempts, w.store.Names a.path l → ∃ f, a.outcome = .error f)
  gone : ∀ l content, w.store.node? l = some (.file content) →
    (v.store.node? l = none ↔ ∃ i path, t.paths[i]? = some path ∧ w.store.Names path l ∧
      w.faultAt? .remove (w.counts .remove + i + 1) = none)
  kept : ∀ l, (∀ a ∈ attempts, w.store.Names a.path l → ∃ f, a.outcome = .error f) → w.Keeps v l
  others : ∀ l, (∀ path ∈ t.paths, ¬ w.store.Names path l) → w.Keeps v l

/-- A set that is still to be released is released completely. -/
theorem Unreleased.complete {t : TempFiles} {w : World} (h : Unreleased t) (hw : w.RemovalFaults) :
    ∃ attempts v, Complete t w attempts v := by
  obtain ⟨attempts, v, hended, hleft, hmap, htried, hos⟩ :=
    release_tries h.released hw h.clean
  have hcleared := htried.cleared
  have hkept (l : Location)
      (hfailed : ∀ a ∈ attempts, w.store.Names a.path l → ∃ f, a.outcome = .error f) :
      w.Keeps v l := by
    refine hcleared.kept l ?_
    rintro ⟨a, ha, hok, hn⟩
    obtain ⟨f, hf⟩ := hfailed a ha hn
    rw [hok] at hf
    cases hf
  refine ⟨attempts, v, hended, hleft, ⟨hmap, htried⟩, ?_, hos,
    fun l content hl => hcleared.stays_iff hl, fun l content hl => ?_, hkept, fun l hl => ?_⟩
  · rw [hcleared.counts, ← hmap, List.length_map]
  · rw [hcleared.gone_iff hl, hmap]
  · exact hkept l fun a ha hn => absurd hn (hl a.path (hmap ▸ List.mem_map_of_mem ha))

/-- **The first release is complete, later ones do nothing.** Let a set be used in any way, with paths
that the system takes, and not be released yet; and let the system refuse removals only with errors of its
own. Every step has registered what it had to, in this order. The first release ends well and is complete.
And whatever is done afterwards, files made anew where the paths lead included, releasing the set again
changes nothing, whether it is done on its own or on leaving a block. -/
theorem first_release_is_complete (directory : Value) (stem : Text) (w : World) (history : List Doing)
    (hfirst : .release ∉ history) (hadded : ∀ path, .add path ∈ history → path.Clean)
    (hfaults : (after history (TempFiles.none directory stem, w)).2.RemovalFaults) :
    let start := (TempFiles.none directory stem, w)
    let s := after history start
    (∀ earlier doing rest, history = earlier ++ doing :: rest →
      Registered doing (after earlier start) (after (earlier ++ [doing]) start) ∧
      (after (earlier ++ [doing]) start).1.paths <+: s.1.paths) ∧
    ∃ attempts v, Complete s.1 s.2 attempts v ∧
      ∀ later, ∃ t u, after later ({ s.1 with released := true }, v) = (t, u) ∧
        t.released = true ∧ Drafting.release t u = ((.ok (), t), u) ∧
        ∀ {α : Type} (act : Act α), Act.ensure act t.release u = act u := by
  intro start s
  have hunreleased : Unreleased s.1 :=
    after_unreleased (Unreleased.none directory stem) hfirst hadded
  obtain ⟨attempts, v, hcomplete⟩ := hunreleased.complete hfaults
  refine ⟨?_, attempts, v, hcomplete, fun later => ?_⟩
  · rintro earlier doing rest rfl
    have hstep : after (earlier ++ [doing]) start = doing.apply (after earlier start) :=
      after_append earlier [doing] start
    have hall : s = after rest (after (earlier ++ [doing]) start) := by
      rw [← after_append, List.append_assoc]
      rfl
    refine ⟨?_, ?_⟩
    · rw [hstep]
      exact registered doing _
    · rw [hall]
      exact after_paths rest _
  · have hreleased :=
      after_released (s := ({ s.1 with released := true }, v)) rfl later
    exact ⟨_, _, rfl, hreleased, release_again hreleased _,
      fun act => ensure_release_again hreleased act _⟩

/-- A file of somebody else is registered twice, a template is written, and a list of recipients that
cannot be filled. -/
def patchwork : List Doing :=
  [.add "mail.json", .write "<p>" ".html" "template", .write "a,b" ".csv" "CSV", .add "mail.json"]

/-- The sample world with a fault for the second file to be filled, and one for the second removal. -/
def grudging : World :=
  { Sample.world with faults :=
      [⟨.open, 2, .system .noSuchFile "/tmp"⟩, ⟨.remove, 2, .system .isDirectory "/tmp"⟩] }

/-- The template is left, since its only removal was refused. The other files are gone, and when one of
them is made anew it stays, however often the set is released. -/
theorem first_release_is_complete_of_patchwork :
    let start := (TempFiles.none .null TempFiles.defaultStem, grudging)
    let s := after patchwork start
    let again : List Doing :=
      [.meanwhile fun w => { w with store := w.store.put ["tmp", "mail.json"] (.file [7]) }, .release]
    (.release ∉ patchwork) ∧ (∀ path, .add path ∈ patchwork → path.Clean) ∧ s.2.RemovalFaults ∧
    ∃ attempts v, Complete s.1 s.2 attempts v ∧ attempts.length = 4 ∧
      v.store.node? ["tmp", "mailgrid-ui-1.html"] = some (.file [60, 112, 62]) ∧
      v.store.node? ["tmp", "mailgrid-ui-2.csv"] = none ∧
      v.store.node? ["tmp", "mail.json"] = none ∧
      (after again ({ s.1 with released := true }, v)).2.store.node? ["tmp", "mail.json"] =
        some (.file [7]) := by
  intro start s again
  have hfirst : .release ∉ patchwork := by simp [patchwork]
  have hadded : ∀ path, .add path ∈ patchwork → path.Clean := by
    intro path hpath
    have heq : path = "mail.json" := by simpa [patchwork] using hpath
    rw [heq]
    decide
  have hall : (s.2.faults.all fun f => f.failure.kind.isA .osError) = true := by decide +kernel
  have hfaults : s.2.RemovalFaults := fun f hf _ => List.all_eq_true.1 hall f hf
  have hlength : s.1.paths.length = 4 := by decide +kernel
  obtain ⟨-, attempts, v, hcomplete, -⟩ :=
    first_release_is_complete .null TempFiles.defaultStem grudging patchwork hfirst hadded hfaults
  have hv : v = (Drafting.release s.1 s.2).2 := by rw [hcomplete.ended]
  refine ⟨hfirst, hadded, hfaults, attempts, v, hcomplete, ?_, ?_, ?_, ?_, ?_⟩
  · rw [← List.length_map Attempt.path, hcomplete.tried.1, hlength]
  all_goals rw [hv]; decide +kernel

end CampaignDesk.Drafting
