import CampaignDesk.Proofs.Dispatch.Call
import CampaignDesk.Proofs.Order.Preparation

/-!
# Operations on forms around their engine call

An operation does the same whatever the engine will do, up to the moment at which it calls one; and
what it does afterwards depends on how the call ended alone.

* `entered?`: the engine, the order and the world at the moment of the call, if it comes to one.
* `perform_cases`: **an operation on a form either comes to its call with a draft of its files and
  leaves by `leave`, or fails before with nothing left behind.**
-/

namespace CampaignDesk.Dispatch

open Store World Act
open Drafting (Drafted)

theorem sameFiles_incidental : Incidental SameFiles :=
  .of_note note_sameBut fun _ _ => .of_eq rfl rfl rfl

theorem announce_sameBut (operation : String) : Within SameFiles (announce operation) :=
  sameFiles_incidental.announce operation

theorem closing_sameBut (operation : String) (outcome : Except Failure Value) :
    Within SameFiles (closing operation outcome) :=
  sameFiles_incidental.closing operation outcome

/-- The moment at which an operation calls an engine. -/
structure Entered where
  engine : EngineRef
  order : Order
  files : TempFiles
  world : World

/-- The locations of the temporary files, which the engine may use until its call ends. -/
def Entered.lent (x : Entered) : List Location := x.world.store.places x.files.paths

/-- The moment at which an operation on a form calls an engine, if it comes to that. -/
def entered? (operation : Campaign) (form : Form) (w : World) : Option Entered :=
  match Preparation.prepare form (.bool (operation = .preview)) w.service.tempDir w with
  | (.ok (order, files), v) =>
    match announce (operationName operation) v with
    | (.ok e, u) => some ⟨e, order, files, u⟩
    | (.error _, _) => none
  | (.error _, _) => none

/-- What an operation does once its call has ended. -/
def leave (operation : Campaign) (files : TempFiles) (ended : Except Failure Value × World) :
    Except Failure Unit × World :=
  Act.ensure (do let _ ← closing (operationName operation) ended.1) files.release ended.2

variable {operation : Campaign} {form : Form} {w v : World}

/-- The draft is there when the engine is called. -/
theorem Entered.drafted {x : Entered} (h : entered? operation form w = some x) :
    Drafted w x.files x.world := by
  unfold entered? at h
  rcases Preparation.prepare_cases form (.bool (operation = .preview)) w.service.tempDir w with
    ⟨f, v, hprep, -⟩ | ⟨order, files, v, hprep, hdraft⟩ <;> rw [hprep] at h
  · cases h
  have hsame := announce_sameBut (operationName operation) v
  simp only at h
  rcases hann : announce (operationName operation) v with ⟨f | e, u⟩ <;> rw [hann] at h hsame <;>
    cases h
  exact hdraft.trans hsame

/-- An operation whose form cannot be prepared fails as the preparation does, whatever the engine. -/
theorem perform_unprepared {f : Failure}
    (h : Preparation.prepare form (.bool (operation = .preview)) w.service.tempDir w = (.error f, v))
    (call : Call) : perform call operation form w = (.error f, v) := by
  rw [perform, bind_apply, get_apply]
  exact bind_error h

/-- What is prepared is taken to the engine, and left however that ends. -/
theorem perform_prepared {order : Order} {files : TempFiles}
    (h : Preparation.prepare form (.bool (operation = .preview)) w.service.tempDir w =
      (.ok (order, files), v)) (call : Call) :
    perform call operation form w = leave operation files
      ((announce (operationName operation) >>= fun e => call e order) v) := by
  have hperform : perform call operation form w =
      (Preparation.prepare form (.bool (operation = .preview)) w.service.tempDir >>= fun made =>
        Act.ensure (do let _ ← callEngine call (operationName operation) made.1) made.2.release) w :=
    rfl
  rw [hperform, bind_ok h, leave, ensure_apply, ensure_apply, callEngine_bind]

/-- Leaving removes the files of a draft and changes no others. -/
theorem leave_cases (operation : Campaign) {files : TempFiles} (h : Drafted w files v)
    (ended : Except Failure Value × World) (hended : SameTree w.store ended.2.store) :
    ∃ outcome u, leave operation files ended = (outcome, u) ∧
      ended.2.SameBut (w.store.places files.paths) u ∧
      (ended.2.Spares .remove → ∀ l ∈ w.store.places files.paths, u.store.node? l = none) := by
  have hclose : Within SameFiles
      (do let _ ← closing (operationName operation) ended.1 : Act Unit) :=
    (closing_sameBut _ _).bind fun _ => .pure _
  have hmid := hclose ended.2
  -- releasing comes last and sees the directories that the draft was made in
  obtain ⟨released, u, hrel, hsame, hgone⟩ := h.release_cases _ (hended.trans hmid.tree)
  unfold leave
  rw [ensure_apply, hrel]
  have hall : ended.2.SameBut (w.store.places files.paths) u := (hmid.mono (by simp)).trans hsame
  rcases released with e | _
  · exact ⟨_, _, rfl, hall, fun hw => (hgone (hmid.spares hw)).2⟩
  · exact ⟨_, _, rfl, hall, fun hw => (hgone (hmid.spares hw)).2⟩

/-- An operation whose call fails still fails after its files are released. -/
theorem leave_error (operation : Campaign) (files : TempFiles) (f : Failure) (w : World) :
    ∃ g, (leave operation files (.error f, w)).1 = .error g := by
  obtain ⟨g, v, hclosing⟩ : ∃ g v,
      (do let _ ← closing (operationName operation) (.error f) : Act Unit) w = (.error g, v) := by
    simp only [closing, bind_apply]
    rcases logFailed (operationName operation) f w with ⟨e | _, u⟩
    · exact ⟨e, u, rfl⟩
    · exact ⟨passedOn f, u, rfl⟩
  rw [leave, ensure_apply, hclosing]
  rcases files.release v with ⟨e | _, u⟩
  · exact ⟨e, rfl⟩
  · exact ⟨g, rfl⟩

/-- **An operation on a form either comes to its call with a draft of its files, or fails before with
nothing left behind.** Until then it is the same operation for every engine. -/
theorem perform_cases (operation : Campaign) (form : Form) (w : World) :
    (∃ x, entered? operation form w = some x ∧ ∀ call, perform call operation form w =
      leave operation x.files (call x.engine x.order x.world)) ∨
    (entered? operation form w = none ∧ ∃ f v,
      (∀ call, perform call operation form w = (.error f, v)) ∧ w.Restored v) := by
  unfold entered?
  rcases Preparation.prepare_cases form (.bool (operation = .preview)) w.service.tempDir w with
    ⟨f, v, hprep, hres⟩ | ⟨order, files, v, hprep, hdraft⟩ <;> rw [hprep]
  · exact .inr ⟨rfl, f, v, perform_unprepared hprep, hres⟩
  have hsame := announce_sameBut (operationName operation) v
  simp only
  rcases hann : announce (operationName operation) v with ⟨f | e, u⟩ <;> rw [hann] at hsame
  · -- no engine is found: the call is over before it began
    have hleft (call : Call) :
        perform call operation form w = leave operation files (.error f, u) := by
      rw [perform_prepared hprep, bind_error hann]
    have hdraft := hdraft.trans hsame
    obtain ⟨outcome, z, hleave, hz, hgone⟩ :=
      leave_cases operation hdraft (.error f, u) hdraft.same.tree
    obtain ⟨g, hfailed⟩ := leave_error operation files f u
    refine .inr ⟨rfl, g, z, fun call => ?_,
      _, hdraft.same.trans hz, hdraft.vacant, fun hw => hgone (hdraft.same.spares hw)⟩
    rw [hleft, hleave, ← hfailed, hleave]
  · -- the engine's own doing is all that is left open
    exact .inl ⟨_, rfl, fun call => by rw [perform_prepared hprep, bind_ok hann]⟩

namespace Entered

variable {x : Entered}

theorem lent_eq (h : entered? operation form w = some x) :
    x.lent = w.store.places x.files.paths :=
  ((drafted h).removable (.refl w.store)).places_eq (drafted h).same.tree

/-- When the engine is called, files differ only where they were lent to it. -/
theorem same (h : entered? operation form w = some x) : w.SameBut x.lent x.world :=
  lent_eq h ▸ (drafted h).same

/-- Nothing stood before where files are lent. -/
theorem vacant (h : entered? operation form w = some x) : ∀ l ∈ x.lent, w.store.node? l = none :=
  lent_eq h ▸ (drafted h).vacant

theorem leave_cases (h : entered? operation form w = some x)
    (ended : Except Failure Value × World) (hended : SameTree w.store ended.2.store) :
    ∃ outcome u, leave operation x.files ended = (outcome, u) ∧ ended.2.SameBut x.lent u ∧
      (ended.2.Spares .remove → ∀ l ∈ x.lent, u.store.node? l = none) :=
  lent_eq h ▸ Dispatch.leave_cases operation (drafted h) ended hended

end Entered

end CampaignDesk.Dispatch
