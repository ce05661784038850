import CampaignDesk.Desk
import CampaignDesk.Proofs.Dispatch.Form
import CampaignDesk.Proofs.Store.Change

/-!
# What engines may do

An engine is free in what it does during a call: it may look at the world and decide by what it
sees, change anything that is no file, change files, and call the service again, where an engine
is called in turn. Such a call ends with any value or any failure, a request to stop included.

* `Conduct`: what an engine does in one call, as a tree of its doings.
* `Conduct.run`: the call itself.
* `Conduct.lasting`: the changes to files that an engine makes itself and that outlast the call.
* `run_restored`: **files are as these changes alone make them**, but for files that removing failed
  for.
* `Conduct.Reaches`: the moments of a call at which an engine is at work.
-/

namespace CampaignDesk

open Store World Act

/-- A change to the world that leaves all files alone: another engine is registered, another
directory is set for temporary files, a scheduler is started, something is logged. -/
structure Adjustment where
  apply : World → World
  same : ∀ w : World, w.SameFiles (apply w)

/-- What an engine does in one call, up to its end. Inside, whoever is engine then answers in the
same way. -/
inductive Conduct
  | ends (outcome : Except Failure Value)
  | looks (next : World → Conduct)
  | adjusts (adjustment : Adjustment) (next : Conduct)
  | changes (change : FileChange) (next : Conduct)
  /-- It has the service perform an operation on a form. -/
  | performs (operation : Campaign) (form : Form) (engine : EngineRef → Order → Conduct)
      (next : Except Failure Unit → Conduct)
  /-- It has the service do something without a form. -/
  | calls (operation : String) (order : Order) (engine : EngineRef → Order → Conduct)
      (next : Except Failure Value → Conduct)

/-- The changes that an engine makes in the call of an operation without a form. -/
def Dispatch.lastingOfCall (engine : EngineRef → World → List FileChange) (operation : String)
    (w : World) : List FileChange :=
  match announce operation w with
  | (.ok e, v) => engine e v
  | (.error _, _) => []

/-- The changes that outlast an operation on a form, out of those that its engine makes: not those to
the files that were lent to it. -/
def Dispatch.lasting (engine : EngineRef → Order → World → List FileChange) (operation : Campaign)
    (form : Form) (w : World) : List FileChange :=
  match entered? operation form w with
  | some x => (engine x.engine x.order x.world).filter fun c => c.location ∉ x.lent
  | none => []

namespace Conduct

/-- A call of an engine that does as described. -/
def run : Conduct → Act Value
  | .ends outcome => settle outcome
  | .looks next => fun w => (next w).run w
  | .adjusts adjustment next => fun w => next.run (adjustment.apply w)
  | .changes change next => fun w => next.run (change.made w)
  | .performs operation form engine next => fun w =>
    let ended := Dispatch.perform (fun e order => (engine e order).run) operation form w
    (next ended.1).run ended.2
  | .calls operation order engine next => fun w =>
    let ended := Dispatch.callEngine (fun e order => (engine e order).run) operation order w
    (next ended.1).run ended.2

/-- The changes to files that the engine makes, and that engines inside make, in order; of those
inside an operation on a form the ones that outlast it. -/
def lasting : Conduct → World → List FileChange
  | .ends _, _ => []
  | .looks next, w => (next w).lasting w
  | .adjusts adjustment next, w => next.lasting (adjustment.apply w)
  | .changes change next, w => change :: next.lasting (change.made w)
  | .performs operation form engine next, w =>
    let ended := Dispatch.perform (fun e order => (engine e order).run) operation form w
    Dispatch.lasting (fun e order => (engine e order).lasting) operation form w ++
      (next ended.1).lasting ended.2
  | .calls operation order engine next, w =>
    let ended := Dispatch.callEngine (fun e order => (engine e order).run) operation order w
    Dispatch.lastingOfCall (fun e => (engine e order).lasting) operation w ++
      (next ended.1).lasting ended.2

end Conduct

namespace Dispatch

/-- **What an operation on a form leaves of the engine's doing.** If the engine restores files up to
changes of its own, then the operation does, up to those that outlast it. -/
theorem perform_restored {call : Call} {changes : EngineRef → Order → World → List FileChange}
    (h : ∀ e order (v : World), (v.after (changes e order v)).Restored (call e order v).2)
    (operation : Campaign) (form : Form) (w : World) :
    (w.after (lasting changes operation form w)).Restored (perform call operation form w).2 := by
  unfold lasting
  rcases perform_cases operation form w with ⟨x, hx, hrun⟩ | ⟨hnone, outcome, v, hrun, hres⟩
  · rw [hx, hrun]
    simp only
    generalize hcs : changes x.engine x.order x.world = cs
    obtain ⟨ls, hengine, hnone, hgone⟩ := hcs ▸ h x.engine x.order x.world
    have hkept := (Entered.same hx).after_filter (p := fun c => c.location ∉ x.lent)
      (fun c hc => by simpa using hc) cs
    -- where files are lent the engine's changes make no difference in the end
    have hmid := hkept.append hengine
    obtain ⟨outcome, u, hleave, hu, hclean⟩ := Entered.leave_cases hx
      (call x.engine x.order x.world) ((after_sameTree w _).trans hmid.tree)
    rw [hleave]
    have hlent (l : Location) (hl : l ∈ x.lent) :
        (w.after (cs.filter fun c => c.location ∉ x.lent)).store.node? l = none := by
      rw [after_node? fun c hc heq => ?_, Entered.vacant hx l hl]
      simpa [heq, hl] using (List.mem_filter.1 hc).2
    have hall := (hmid.append hu).mono fun l hl =>
      (List.mem_append.1 hl).elim id (List.mem_append_left ls)
    refine ⟨x.lent ++ ls, hall, fun l hl => ?_, fun hw l hl => ?_⟩
    · by_cases hll : l ∈ x.lent
      · exact hlent l hll
      · exact (hkept.vacant l hll).1 (hnone l ((List.mem_append.1 hl).resolve_left hll))
    · by_cases hll : l ∈ x.lent
      · exact hclean (hmid.spares hw) l hll
      · exact (hu.vacant l hll).2
          (hgone (hkept.spares hw) l ((List.mem_append.1 hl).resolve_left hll))
  · rw [hnone, hrun]
    exact hres

/-- An operation without a form has no files of its own. -/
theorem callEngine_restored (call : Call) (order : Order)
    (changes : EngineRef → World → List FileChange)
    (h : ∀ e (v : World), (v.after (changes e v)).Restored (call e order v).2) (operation : String)
    (w : World) :
    (w.after (lastingOfCall changes operation w)).Restored (callEngine call operation order w).2 := by
  rw [callEngine_apply, lastingOfCall]
  have hsame := announce_sameBut operation w
  rcases hann : announce operation w with ⟨f | e, v⟩ <;> rw [hann] at hsame
  · have hclose := closing_sameBut operation (.error f) v
    exact .trans (.of_sameFiles hsame) (.of_sameFiles hclose)
  · have hwv : w.Restored v := .of_sameFiles hsame
    have hclose := closing_sameBut operation (call e order v).1 (call e order v).2
    exact (hwv.after _).trans ((h e v).trans (.of_sameFiles hclose))

end Dispatch

namespace Conduct

/-- **Files are as the engine's lasting changes alone make them**, but for files that removing failed
for. -/
theorem run_restored (c : Conduct) (w : World) : (w.after (c.lasting w)).Restored (c.run w).2 := by
  induction c generalizing w with
  | ends outcome => exact .refl w
  | looks next ih => exact ih w w
  | adjusts adjustment next ih =>
    have hsame : w.Restored (adjustment.apply w) := .of_sameFiles (adjustment.same w)
    exact (hsame.after _).trans (ih _)
  | changes change next ih => exact ih (change.made w)
  | performs operation form engine next ihengine ihnext =>
    -- the operation inside is done by engines for which this holds already
    have hinner := Dispatch.perform_restored (fun e order v => ihengine e order v) operation form w
    rw [lasting, after_append]
    exact (hinner.after _).trans (ihnext _ _)
  | calls operation order engine next ihengine ihnext =>
    rw [lasting, after_append]
    have hinner := Dispatch.callEngine_restored (fun e order => (engine e order).run) order _
      (fun e v => ihengine e order v) operation w
    exact (hinner.after _).trans (ihnext _ _)

/-- `c.Reaches w cs v`: in a call from `w` there is a moment with the world `v` at which the engine,
or one that is called inside, is at work, and `cs` are the changes it has made by then. -/
inductive Reaches : Conduct → World → List FileChange → World → Prop
  | here (c : Conduct) (w : World) : Reaches c w [] w
  | looks {next w cs v} : Reaches (next w) w cs v → Reaches (.looks next) w cs v
  | adjusts {adjustment next w cs v} :
    Reaches next (adjustment.apply w) cs v → Reaches (.adjusts adjustment next) w cs v
  | changes {change next w cs v} :
    Reaches next (change.made w) cs v → Reaches (.changes change next) w (change :: cs) v
  | inPerforms {operation form engine next w x cs v} :
    Dispatch.entered? operation form w = some x → Reaches (engine x.engine x.order) x.world cs v →
      Reaches (.performs operation form engine next) w cs v
  | afterPerforms {operation form engine next w outcome u cs v} :
    Dispatch.perform (fun e order => (engine e order).run) operation form w = (outcome, u) →
      Reaches (next outcome) u cs v → Reaches (.performs operation form engine next) w
        (Dispatch.lasting (fun e order => (engine e order).lasting) operation form w ++ cs) v
  | inCalls {operation order engine next w e u cs v} :
    Dispatch.announce operation w = (.ok e, u) → Reaches (engine e order) u cs v →
      Reaches (.calls operation order engine next) w cs v
  | afterCalls {operation order engine next w outcome u cs v} :
    Dispatch.callEngine (fun e order => (engine e order).run) operation order w = (outcome, u) →
      Reaches (next outcome) u cs v → Reaches (.calls operation order engine next) w
        (Dispatch.lastingOfCall (fun e => (engine e order).lasting) operation w ++ cs) v

/-- **A file that the engine does not change itself is there at every moment of the call**, whatever
operations it runs inside. -/
theorem Reaches.holds {c : Conduct} {w v : World} {cs : List FileChange} (h : c.Reaches w cs v)
    {l : Location} {content : Bytes} (hw : w.Holds l content) (hcs : ∀ c ∈ cs, c.location ≠ l) :
    v.Holds l content ∧ SameTree w.store v.store := by
  induction h with
  | here c w => exact ⟨hw, .refl w.store⟩
  | looks _ ih => exact ih hw hcs
  | @adjusts adjustment _ w _ _ _ ih =>
    have hsame := adjustment.same w
    obtain ⟨hv, htree⟩ := ih (hw.sameBut hsame (by simp)) hcs
    exact ⟨hv, hsame.tree.trans htree⟩
  | @changes change _ w cs _ _ ih =>
    obtain ⟨hv, htree⟩ := ih (hw.made (hcs change List.mem_cons_self))
      fun c hc => hcs c (List.mem_cons_of_mem _ hc)
    exact ⟨hv, (change.made_sameTree w).trans htree⟩
  | inPerforms hx _ ih =>
    -- the operation inside has files of its own, and this one is not among them
    have hlent : l ∉ Dispatch.Entered.lent _ := fun hl => by
      have hnode := hw.node
      rw [Dispatch.Entered.vacant hx l hl] at hnode
      cases hnode
    have hsame := Dispatch.Entered.same hx
    obtain ⟨hv, htree⟩ := ih (hw.sameBut hsame hlent) hcs
    exact ⟨hv, hsame.tree.trans htree⟩
  | @afterPerforms operation form engine _ w _ u cs _ hrun _ ih =>
    have hres := Dispatch.perform_restored (fun e order v => (engine e order).run_restored v)
      operation form w
    rw [hrun] at hres
    -- what the operation released was not this file
    have hmid := hw.after fun c hc => hcs c (List.mem_append_left cs hc)
    obtain ⟨hv, htree⟩ := ih (hmid.restored hres) fun c hc => hcs c (List.mem_append_right _ hc)
    exact ⟨hv, (after_sameTree w _).trans (hres.sameTree.trans htree)⟩
  | @inCalls operation _ _ _ w _ _ _ _ hann _ ih =>
    have hsame := Dispatch.announce_sameBut operation w
    rw [hann] at hsame
    obtain ⟨hv, htree⟩ := ih (hw.sameBut hsame (by simp)) hcs
    exact ⟨hv, hsame.tree.trans htree⟩
  | @afterCalls operation order engine _ w _ u cs _ hrun _ ih =>
    have hres := Dispatch.callEngine_restored (fun e order => (engine e order).run) order _
      (fun e v => (engine e order).run_restored v) operation w
    rw [hrun] at hres
    have hmid := hw.after fun c hc => hcs c (List.mem_append_left cs hc)
    obtain ⟨hv, htree⟩ := ih (hmid.restored hres) fun c hc => hcs c (List.mem_append_right _ hc)
    exact ⟨hv, (after_sameTree w _).trans (hres.sameTree.trans htree)⟩

end Conduct

end CampaignDesk
