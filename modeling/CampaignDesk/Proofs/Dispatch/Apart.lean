import CampaignDesk.Proofs.Dispatch.Form
import CampaignDesk.Proofs.TempFiles.History
import CampaignDesk.Proofs.TempFiles.Removal

/-!
# Worlds that differ in what was logged

Operations that log different things leave worlds behind that differ in the log. Nothing that operations
go on to do depends on that: the log file is looked at by none of them.

* `Store.SameKinds`: stores that differ in what files hold at most. `SameKinds.remove?_cases`: **files are
  found and removed without a look at what they hold.**
* `World.ApartInLog`: two worlds that differ in what was logged at most.
* `Act.InStep`: two operations that end in the same way from such worlds, and leave such worlds. Every way
  of putting operations together keeps this, and log records need not be the same in both.
* `Dispatch.announce_inStep`, `Dispatch.leave_inStep`: **what operations do before and after an engine call
  is in step, whatever they are called in the log.**
-/

namespace CampaignDesk

open Store World Act

/-! ## Stores -/

namespace Store

variable {s t : Store} {k l : Location} {path : Text}

/-- Files and directories are at the same places of two stores; what the files hold may differ. -/
structure SameKinds (s t : Store) : Prop where
  tree : SameTree s t
  vacant : ∀ l, t.node? l = none ↔ s.node? l = none

namespace SameKinds

/-- What is at a place of one store is at that place of the other. -/
theorem node?_cases (h : SameKinds s t) (l : Location) :
    (s.node? l = none ∧ t.node? l = none) ∨
    (s.node? l = some .directory ∧ t.node? l = some .directory) ∨
    ∃ b c, s.node? l = some (.file b) ∧ t.node? l = some (.file c) := by
  have hvacant := h.vacant l
  have hdirectory := h.tree.directory l
  rcases hs : s.node? l with _ | _ | b <;> rcases ht : t.node? l with _ | _ | c <;>
    simp_all

theorem enter? (h : SameKinds s t) (name : Text) : t.enter? k name = s.enter? k name := by
  unfold Store.enter?
  rcases h.node?_cases k with ⟨hs, ht⟩ | ⟨hs, ht⟩ | ⟨b, c, hs, ht⟩ <;> rw [hs, ht]

theorem walk? (h : SameKinds s t) (names : List Text) : t.walk? k names = s.walk? k names := by
  have henter : t.enter? = s.enter? := funext fun _ => funext h.enter?
  unfold Store.walk?
  rw [henter]

theorem removable? (h : SameKinds s t) : t.removable? path = s.removable? path := by
  unfold Store.removable?
  simp only [h.tree.keepsTree.start, h.walk?]
  refine bind_congr fun _ => ?_
  split
  · rfl
  refine bind_congr fun l => ?_
  split
  · rfl
  rcases h.node?_cases l with ⟨hs, ht⟩ | ⟨hs, ht⟩ | ⟨b, c, hs, ht⟩ <;> rw [hs, ht]

/-- **A path is removed from both stores, or refused with the same failure.** -/
theorem remove?_cases (h : SameKinds s t) (path : Text) :
    (∃ f, s.remove? path = .error f ∧ t.remove? path = .error f) ∨
    ∃ l, s.remove? path = .ok (s.erase l) ∧ t.remove? path = .ok (t.erase l) := by
  unfold Store.remove? guarded
  rw [h.removable?]
  rcases Path.refusal? path with _ | f
  · rcases s.removable? path with e | l
    · exact .inl ⟨_, rfl, rfl⟩
    · exact .inr ⟨l, rfl, rfl⟩
  · exact .inl ⟨f, rfl, rfl⟩

end SameKinds

end Store

/-! ## Worlds -/

namespace World

/-- The world without its files and without anything that was logged. Log records are shown among the answers
only where a console is drawn. -/
def unlogged (w : World) : World := { w with
  store := Store.fresh [], journal := [], err := []
  out := if w.logging.isDrawn then [] else w.out }

/-- A log record is among what does not count. -/
theorem noted_unlogged (r : Record) (w : World) : (Act.note r w).2.unlogged = w.unlogged := by
  have hout : (if w.logging.isDrawn then [] else (w.handed r (.ok r.message)).out) =
      if w.logging.isDrawn then [] else w.out := by
    cases hdrawn : w.logging.isDrawn with
    | true => rfl
    | false => rw [handed_out r _ hdrawn]
  exact congrArg (fun out => { w with store := Store.fresh [], journal := [], err := [], out := out }) hout

/-- Two worlds differ in what was logged at most: in the journal, in what was shown of it on the console, and
in what the log file holds. -/
structure ApartInLog (w v : World) : Prop where
  files : w.SameFiles v
  rest : v.unlogged = w.unlogged

theorem SameBut.sameKinds {w v : World} (h : w.SameFiles v) : SameKinds w.store v.store :=
  ⟨h.tree, fun l => h.vacant l List.not_mem_nil⟩

/-- Files are the same both ways if the log is written to the same place. -/
theorem SameBut.symm {w v : World} (h : w.SameFiles v) (hlog : v.logging = w.logging) :
    v.SameFiles w where
  faults := h.faults.symm
  quiet _ hl := hlog ▸ hl
  tree := h.tree.symm
  vacant l hl := (h.vacant l hl).symm
  node l hl hquiet := (h.node l hl (hlog ▸ hquiet)).symm

namespace ApartInLog

variable {w v w' v' : World}

theorem refl (w : World) : w.ApartInLog w := ⟨Std.Refl.refl w, rfl⟩

/-- What is the same in both worlds: everything but the files and the log. -/
theorem congr {α : Type} (h : w.ApartInLog v) (read : World → α)
    (hread : ∀ u, read u.unlogged = read u) : read v = read w := by
  rw [← hread v, h.rest, hread w]

/-- Files may stay as they are in both worlds while the rest changes in the same way. -/
theorem along (h : w.ApartInLog v) (hw : w.SameFiles w') (hv : v.SameFiles v')
    (hlog : w'.logging = w.logging) (hrest : v'.unlogged = w'.unlogged) : w'.ApartInLog v' :=
  ⟨(hw.symm hlog).trans (h.files.trans hv), hrest⟩

theorem erase (h : w.ApartInLog v) (l : Location) :
    ApartInLog { w with store := w.store.erase l } { v with store := v.store.erase l } := by
  have hnode {k : Location} (hk : k ≠ l) (s : Store) : (s.erase l).node? k = s.node? k :=
    node?_erase_of_ne s hk
  refine ⟨⟨h.files.faults, h.files.quiet, ⟨h.files.tree.here, fun k => ?_⟩, fun k hmem => ?_,
    fun k hmem hquiet => ?_⟩, h.rest⟩
  all_goals by_cases hk : k = l
  · simp [hk]
  · simpa only [hnode hk] using h.files.tree.directory k
  · simp [hk]
  · simpa only [hnode hk] using h.files.vacant k hmem
  · simp [hk]
  · simpa only [hnode hk] using h.files.node k hmem hquiet

end ApartInLog

end World

/-! ## Operations in step -/

namespace Act

variable {α β : Type}

/-- From worlds that differ in what was logged, the operations end in the same way and leave worlds
that differ in what was logged. -/
def InStep (act act' : Act α) : Prop :=
  ∀ ⦃w v : World⦄, w.ApartInLog v → (act' v).1 = (act w).1 ∧ (act w).2.ApartInLog (act' v).2

namespace InStep

theorem pure (a : α) : InStep (Pure.pure a : Act α) (Pure.pure a) := fun _ _ h => ⟨rfl, h⟩

theorem throw (f : Failure) : InStep (MonadExcept.throw f : Act α) (MonadExcept.throw f) :=
  fun _ _ h => ⟨rfl, h⟩

theorem settle (outcome : Except Failure α) : InStep (Act.settle outcome) (Act.settle outcome) :=
  fun _ _ h => ⟨rfl, h⟩

theorem attempt {act act' : Act α} (h : InStep act act') :
    InStep (Act.attempt act) (Act.attempt act') := by
  intro w v hwv
  obtain ⟨hended, hleft⟩ := h hwv
  exact ⟨congrArg Except.ok hended, hleft⟩

theorem bind {act act' : Act α} {next next' : α → Act β} (h : InStep act act')
    (h' : ∀ a, InStep (next a) (next' a)) : InStep (act >>= next) (act' >>= next') := by
  intro w v hwv
  obtain ⟨hended, hleft⟩ := h hwv
  rw [bind_apply, bind_apply]
  rcases hrun : act w with ⟨f | a, w'⟩ <;> rcases hrun' : act' v with ⟨f' | a', v'⟩ <;>
    rw [hrun, hrun'] at hended hleft <;> cases hended
  · exact ⟨rfl, hleft⟩
  · exact h' a hleft

/-- What is read of the worlds may differ in what was logged. -/
theorem reads {next next' : World → Act α}
    (h : ∀ w v, w.ApartInLog v → InStep (next w) (next' v)) : InStep (get >>= next) (get >>= next') :=
  fun w v hwv => h w v hwv hwv

theorem ensure {act act' : Act α} {afterwards afterwards' : Act Unit} (h : InStep act act')
    (h' : InStep afterwards afterwards') :
    InStep (Act.ensure act afterwards) (Act.ensure act' afterwards') :=
  h.attempt.bind fun outcome => h'.bind fun _ => .settle outcome

theorem forM {ι : Type} {act act' : ι → Act PUnit} (h : ∀ i, InStep (act i) (act' i))
    (l : List ι) : InStep (l.forM act) (l.forM act') := by
  induction l with
  | nil => exact .pure _
  | cons i l ih => exact (h i).bind fun _ => ih

/-- **Different records may be logged.** -/
theorem note (r r' : Record) : InStep (Act.note r) (Act.note r') := fun w v hwv =>
  ⟨rfl, hwv.along (note_sameBut r _) (note_sameBut r' _) rfl <| by
    rw [noted_unlogged, noted_unlogged, hwv.rest]⟩

theorem register (e : Option EngineRef) : InStep (Engine.register e) (Engine.register e) :=
  fun _ _ hwv => ⟨rfl, hwv.along (.of_eq rfl rfl rfl) (.of_eq rfl rfl rfl) rfl <|
    congrArg (fun u => { u with registry := { u.registry with current := e } }) hwv.rest⟩

end InStep

end Act

/-! ## Searching for an engine, and its call -/

namespace Engine

theorem discover_inStep : InStep discover discover := by
  refine .reads fun w v h => ?_
  rw [h.congr World.registry fun _ => rfl]
  exact (InStep.forM (fun _ => .note _ _) _).bind fun _ => .settle _

theorem inUse_inStep : InStep inUse inUse := by
  refine .reads fun w v h => ?_
  rw [h.congr World.registry fun _ => rfl]
  split
  · exact .pure _
  refine discover_inStep.bind fun catalogue => ?_
  split
  · exact (InStep.note _ _).bind fun _ => (InStep.register _).bind fun _ => .pure _
  · exact (InStep.register _).bind fun _ => .pure _

end Engine

namespace Dispatch

theorem engine_inStep : InStep engine engine := by
  refine .reads fun w v h => ?_
  rw [h.congr World.service fun _ => rfl]
  split
  · exact .pure _
  · exact Engine.inUse_inStep

/-- **An engine is found in the same way**, whatever operation it is for. -/
theorem announce_inStep (operation operation' : String) :
    InStep (announce operation) (announce operation') :=
  (InStep.note _ _).bind fun _ => engine_inStep

theorem logFailed_inStep (operation operation' : String) (f : Failure) :
    InStep (logFailed operation f) (logFailed operation' f) := by
  unfold logFailed
  split
  · exact .note _ _
  split
  · exact .note _ _
  · exact .pure _

theorem closing_inStep (operation operation' : String) (outcome : Except Failure Value) :
    InStep (closing operation outcome) (closing operation' outcome) := by
  cases outcome with
  | error f => exact (logFailed_inStep operation operation' f).bind fun _ => .throw _
  | ok returned => exact (InStep.note _ _).bind fun _ => .pure _

end Dispatch

/-! ## Releasing temporary files -/

theorem TempCall.removeFile_inStep (path : Text) : InStep (removeFile path) (removeFile path) := by
  intro w v h
  have hfault : v.fault? .remove = w.fault? .remove := h.congr (World.fault? · .remove) fun _ => rfl
  have hcounted : (w.counted .remove).ApartInLog (v.counted .remove) :=
    h.along (.of_eq rfl rfl rfl) (.of_eq rfl rfl rfl) rfl (congrArg (World.counted · .remove) h.rest)
  rw [removeFile_apply, removeFile_apply, hfault]
  rcases w.fault? .remove with _ | f
  · rcases h.files.sameKinds.remove?_cases path with ⟨f, hw, hv⟩ | ⟨l, hw, hv⟩ <;>
      simp only [hw, hv]
    · exact ⟨trivial, hcounted⟩
    · exact ⟨trivial, hcounted.erase l⟩
  · exact ⟨rfl, hcounted⟩

theorem Drafting.removeAll_inStep (paths : List Text) :
    InStep (removeAll paths) (removeAll paths) := by
  induction paths with
  | nil => exact .pure _
  | cons path rest ih =>
    unfold removeAll
    refine (TempCall.removeFile_inStep path).attempt.bind fun outcome => ?_
    rcases outcome with f | _
    · simp only
      split
      · exact (InStep.note _ _).bind fun _ => ih
      · exact (InStep.throw f).bind fun _ => ih
    · exact ih

theorem TempFiles.release_inStep (t : TempFiles) : InStep t.release t.release := by
  intro w v h
  cases ht : t.released with
  | true =>
    have hrelease (u : World) : t.release u = (.ok (), u) := by
      simp only [TempFiles.release, TempFiles.run, Drafting.release_again ht, Act.bind_apply,
        settle_apply]
    rw [hrelease, hrelease]
    exact ⟨rfl, h⟩
  | false =>
    rw [Drafting.release_apply ht, Drafting.release_apply ht]
    exact Drafting.removeAll_inStep t.paths h

/-- **Operations whose engine calls ended in the same way leave in the same way.** -/
theorem Dispatch.leave_inStep (operation operation' : Campaign) (files : TempFiles)
    (ended ended' : Except Failure Value × World) (houtcome : ended'.1 = ended.1)
    (h : ended.2.ApartInLog ended'.2) :
    (leave operation' files ended').1 = (leave operation files ended).1 ∧
      (leave operation files ended).2.ApartInLog (leave operation' files ended').2 := by
  unfold leave
  rw [houtcome]
  exact ((closing_inStep _ _ ended.1).bind fun _ => .pure _).ensure files.release_inStep h

end CampaignDesk
