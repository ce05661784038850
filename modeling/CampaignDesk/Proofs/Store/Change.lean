import CampaignDesk.Proofs.Store.Footprint

/-!
# Changes to single files

* `FileChange`: a file gets a content or is removed; `World.after` makes changes in order.
* `World.Holds`: a file that is there stays there unless it is changed.
* `SameBut.after`, `Restored.after`: **the same changes keep alike what was alike**, and changes at
  locations that may differ anyway can be left out on one side (`SameBut.after_filter`).
-/

namespace CampaignDesk

open Store

/-- A change to one file: it gets a content, or it is removed. -/
structure FileChange where
  location : Location
  content : Option Bytes

/-- The world after a change. Where a directory stands there is none. -/
def FileChange.made (c : FileChange) (w : World) : World :=
  if w.store.node? c.location = some .directory then w
  else { w with store :=
    match c.content with
    | some bytes => w.store.put c.location (.file bytes)
    | none => w.store.erase c.location }

/-- The world after some changes, the first one first. -/
def World.after (w : World) (cs : List FileChange) : World := cs.foldl (fun w c => c.made w) w

namespace FileChange

variable (c : FileChange) (w : World)

@[simp] theorem made_faults : (c.made w).faults = w.faults := by
  unfold made
  split <;> rfl

@[simp] theorem made_logging : (c.made w).logging = w.logging := by
  unfold made
  split <;> rfl

theorem made_node?_of_ne {l : Location} (hl : l ≠ c.location) :
    (c.made w).store.node? l = w.store.node? l := by
  unfold made
  split
  · rfl
  · cases c.content with
    | some bytes => exact node?_put_of_ne w.store hl _
    | none => exact node?_erase_of_ne w.store hl

theorem made_node?_self :
    (c.made w).store.node? c.location =
      if w.store.node? c.location = some .directory then some .directory
      else c.content.map .file := by
  unfold made
  split
  · assumption
  · cases c.content with
    | some bytes => exact node?_put_self w.store _ _
    | none => exact node?_erase_self w.store _

theorem made_sameTree : SameTree w.store (c.made w).store := by
  unfold made
  split
  · exact .refl w.store
  · rename_i hdir
    cases c.content with
    | some bytes => exact sameTree_put hdir
    | none => exact sameTree_erase hdir

end FileChange

namespace World

variable {w v u : World} {ls : List Location} {cs : List FileChange}

@[simp] theorem after_nil (w : World) : w.after [] = w := rfl

@[simp] theorem after_cons (w : World) (c : FileChange) (cs : List FileChange) :
    w.after (c :: cs) = (c.made w).after cs := rfl

theorem after_append (w : World) (cs ds : List FileChange) :
    w.after (cs ++ ds) = (w.after cs).after ds := List.foldl_append

@[simp] theorem after_faults (w : World) (cs : List FileChange) : (w.after cs).faults = w.faults := by
  induction cs generalizing w with
  | nil => rfl
  | cons c cs ih => rw [after_cons, ih, FileChange.made_faults]

@[simp] theorem after_logging (w : World) (cs : List FileChange) :
    (w.after cs).logging = w.logging := by
  induction cs generalizing w with
  | nil => rfl
  | cons c cs ih => rw [after_cons, ih, FileChange.made_logging]

theorem after_sameTree (w : World) (cs : List FileChange) : SameTree w.store (w.after cs).store := by
  induction cs generalizing w with
  | nil => exact .refl w.store
  | cons c cs ih => exact (c.made_sameTree w).trans (ih (c.made w))

/-- What no change is about stays. -/
theorem after_node? {l : Location} (hl : ∀ c ∈ cs, c.location ≠ l) :
    (w.after cs).store.node? l = w.store.node? l := by
  induction cs generalizing w with
  | nil => rfl
  | cons c cs ih =>
    rw [after_cons, ih fun d hd => hl d (List.mem_cons_of_mem _ hd)]
    exact c.made_node?_of_ne w (hl c List.mem_cons_self).symm

namespace SameBut

/-- A change where files may differ anyway. -/
theorem made_right (h : SameBut ls w v) {c : FileChange} (hc : c.location ∈ ls) :
    SameBut ls w (c.made v) := by
  have hne l (hl : l ∉ ls) : (c.made v).store.node? l = v.store.node? l :=
    c.made_node?_of_ne v (fun heq => hl (heq ▸ hc))
  refine ⟨by simpa using h.faults, by simpa using h.quiet, h.tree.trans (c.made_sameTree v), ?_, ?_⟩
  · intro l hl
    rw [hne l hl]
    exact h.vacant l hl
  · intro l hl hlog
    rw [hne l hl]
    exact h.node l hl hlog

theorem made (h : SameBut ls w v) (c : FileChange) : SameBut ls (c.made w) (c.made v) := by
  have htree : SameTree (c.made w).store (c.made v).store :=
    (c.made_sameTree w).symm.trans (h.tree.trans (c.made_sameTree v))
  have hself : (c.made v).store.node? c.location = (c.made w).store.node? c.location := by
    rw [c.made_node?_self, c.made_node?_self]
    simp only [h.tree.directory]
  refine ⟨by simpa using h.faults, by simpa using h.quiet, htree, ?_, ?_⟩
  all_goals
    intro l hl
    by_cases hlc : l = c.location
  · rw [hlc, hself]
  · rw [c.made_node?_of_ne v hlc, c.made_node?_of_ne w hlc]
    exact h.vacant l hl
  · rw [hlc, hself]
    exact fun _ => rfl
  · rw [c.made_node?_of_ne v hlc, c.made_node?_of_ne w hlc, c.made_logging]
    exact h.node l hl

theorem after (h : SameBut ls w v) (cs : List FileChange) : SameBut ls (w.after cs) (v.after cs) := by
  induction cs generalizing w v with
  | nil => exact h
  | cons c cs ih => exact ih (h.made c)

/-- **Changes where files may differ anyway can be left out on one side.** -/
theorem after_filter (h : SameBut ls w v) {p : FileChange → Bool}
    (hp : ∀ c, p c = false → c.location ∈ ls) (cs : List FileChange) :
    SameBut ls (w.after (cs.filter p)) (v.after cs) := by
  induction cs generalizing w v with
  | nil => exact h
  | cons c cs ih =>
    cases hc : p c with
    | false =>
      rw [List.filter_cons_of_neg (by simp [hc]), after_cons]
      exact ih (h.made_right (hp c hc))
    | true =>
      rw [List.filter_cons_of_pos hc, after_cons, after_cons]
      exact ih (h.made c)

end SameBut

namespace Restored

theorem refl (w : World) : w.Restored w := .of_sameFiles (Std.Refl.refl w)

theorem trans (h : w.Restored v) (h' : v.Restored u) : w.Restored u := by
  obtain ⟨ls, hsame, hvacant, hgone⟩ := h
  obtain ⟨ms, hsame', hvacant', hgone'⟩ := h'
  refine ⟨ls ++ ms, hsame.append hsame', fun l hl => ?_, fun hw l hl => ?_⟩
  · by_cases hls : l ∈ ls
    · exact hvacant l hls
    · exact (hsame.vacant l hls).1 (hvacant' l ((List.mem_append.1 hl).resolve_left hls))
  · by_cases hms : l ∈ ms
    · exact hgone' (hsame.spares hw) l hms
    · exact (hsame'.vacant l hms).2 (hgone hw l ((List.mem_append.1 hl).resolve_right hms))

theorem made (h : w.Restored v) (c : FileChange) : (c.made w).Restored (c.made v) := by
  obtain ⟨ls, hsame, hvacant, hgone⟩ := h
  -- where the change is made there is no difference any more
  have hself : (c.made v).store.node? c.location = (c.made w).store.node? c.location := by
    rw [c.made_node?_self, c.made_node?_self]
    simp only [hsame.tree.directory]
  have hmade := hsame.made c
  refine ⟨ls.filter (· ≠ c.location), { hmade with vacant := ?_, node := ?_ }, ?_, ?_⟩
  · intro l hl
    by_cases hlc : l = c.location
    · rw [hlc, hself]
    · exact hmade.vacant l fun hmem => hl (List.mem_filter.2 ⟨hmem, by simpa using hlc⟩)
  · intro l hl hlog
    by_cases hlc : l = c.location
    · rw [hlc, hself]
    · exact hmade.node l (fun hmem => hl (List.mem_filter.2 ⟨hmem, by simpa using hlc⟩)) hlog
  · intro l hl
    obtain ⟨hmem, hlc⟩ := List.mem_filter.1 hl
    rw [c.made_node?_of_ne w (by simpa using hlc)]
    exact hvacant l hmem
  · intro hw l hl
    obtain ⟨hmem, hlc⟩ := List.mem_filter.1 hl
    rw [c.made_node?_of_ne v (by simpa using hlc)]
    exact hgone (fun f hf => hw f (by simpa using hf)) l hmem

/-- **The same changes keep restored what was restored.** -/
theorem after (h : w.Restored v) (cs : List FileChange) : (w.after cs).Restored (v.after cs) := by
  induction cs generalizing w v with
  | nil => exact h
  | cons c cs ih => exact ih (h.made c)

end Restored

/-- The file at `l` has this content, and no log is written to it. -/
structure Holds (w : World) (l : Location) (content : Bytes) : Prop where
  node : w.store.node? l = some (.file content)
  unlogged : ¬ w.logging.WritesAt l

namespace Holds

variable {w v : World} {l : Location} {content : Bytes}

theorem sameBut (h : w.Holds l content) {ls : List Location} (h' : w.SameBut ls v) (hl : l ∉ ls) :
    v.Holds l content :=
  ⟨(h'.node l hl h.unlogged).trans h.node, fun hv => h.unlogged (h'.quiet l hv)⟩

theorem restored (h : w.Holds l content) (h' : w.Restored v) : v.Holds l content := by
  obtain ⟨ls, hsame, hvacant, -⟩ := h'
  refine h.sameBut hsame fun hl => ?_
  have hnode := h.node
  rw [hvacant l hl] at hnode
  cases hnode

theorem made (h : w.Holds l content) {c : FileChange} (hc : c.location ≠ l) :
    (c.made w).Holds l content :=
  ⟨(c.made_node?_of_ne w hc.symm).trans h.node, by simpa using h.unlogged⟩

theorem after (h : w.Holds l content) {cs : List FileChange} (hcs : ∀ c ∈ cs, c.location ≠ l) :
    (w.after cs).Holds l content :=
  ⟨(after_node? hcs).trans h.node, by simpa using h.unlogged⟩

end Holds

end World

end CampaignDesk
