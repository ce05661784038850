import CampaignDesk.Proofs.Dispatch.Form
import CampaignDesk.Proofs.TempFiles.Removal

/-!
# How an operation leaves its engine call

* `passedOn_isDesk`: what is passed on of an ordinary failure is one of the desk's own.
* `conclude_apply`: **an operation ends as its call did, and not before every temporary file has been
  tried.** What the system refuses while it removes them is not seen from outside.
-/

namespace CampaignDesk.Dispatch

open World Act

/-- What is passed on of an ordinary failure is one of the desk's own. -/
theorem passedOn_isDesk {f : Failure} (hf : f.kind.isOrdinary = true) :
    (passedOn f).kind.isDesk = true := by
  unfold passedOn
  by_cases hdesk : f.kind.isDesk = true
  · rw [hdesk, Bool.true_or, if_pos rfl]
    exact hdesk
  · rw [hf, if_neg (by simp [hdesk])]
    rfl

/-- What happens after a call fails only if the call did, with what is passed on. -/
theorem closing_outcome (operation : String) (outcome : Except Failure Value) (w : World) :
    (closing operation outcome w).1 = outcome.mapError passedOn := by
  rcases outcome with f | returned
  · obtain ⟨v, hlogged⟩ : ∃ v, logFailed operation f w = (.ok (), v) := by
      unfold logFailed
      split
      · exact ⟨_, rfl⟩
      · split <;> exact ⟨_, rfl⟩
    rw [closing, bind_ok hlogged]
    rfl
  · rfl

theorem cleared_incidental : Incidental (fun w v => w.Cleared [] v) :=
  .of_note note_cleared fun _ w =>
    ⟨rfl, rfl, .refl w.store, rfl, nofun, fun _ _ => .of_eq rfl, nofun, nofun⟩

/-- What happens after a call on behalf of an operation: it is logged how the call ended, and the files
are released. -/
def conclude (operation : String) (files : TempFiles) (ended : Except Failure Value × World) :
    Except Failure Unit × World :=
  Act.ensure (do let _ ← closing operation ended.1) files.release ended.2

/-- **An operation ends as its call did, and not before every temporary file has been tried.** -/
theorem conclude_apply (operation : String) {files : TempFiles} (hunreleased : files.released = false)
    (hclean : ∀ path ∈ files.paths, path.Clean) (ended : Except Failure Value × World)
    (hfaults : ended.2.RemovalFaults) :
    ∃ attempts u, conclude operation files ended =
        ((ended.1.mapError passedOn).map fun _ => (), u) ∧
      attempts.map Attempt.path = files.paths ∧ ended.2.Cleared attempts u := by
  obtain ⟨outcome, v⟩ := ended
  have hclosing := closing_outcome operation outcome v
  have hlogged := cleared_incidental.closing operation outcome v
  rw [conclude, ensure_apply, bind_apply]
  rcases hclosed : closing operation outcome v with ⟨closed, u⟩
  rw [hclosed] at hclosing hlogged
  -- closing has left the faults of the system as they were
  have hu : u.RemovalFaults := fun fault hfault => hfaults fault (hlogged.faults ▸ hfault)
  obtain ⟨attempts, z, -, hrun, hmap, htried, -⟩ :=
    Drafting.release_tries hunreleased hu hclean
  refine ⟨attempts, z, ?_, hmap, hlogged.append htried.cleared⟩
  rw [← hclosing]
  rcases closed with f | returned
  · simp only [hrun]
    rfl
  · simp only [pure_apply, hrun]
    rfl

/-- An operation on a form leaves its call in this way. -/
theorem leave_apply (operation : Campaign) {files : TempFiles} (hunreleased : files.released = false)
    (hclean : ∀ path ∈ files.paths, path.Clean) (ended : Except Failure Value × World)
    (hfaults : ended.2.RemovalFaults) :
    ∃ attempts u, leave operation files ended =
        ((ended.1.mapError passedOn).map fun _ => (), u) ∧
      attempts.map Attempt.path = files.paths ∧ ended.2.Cleared attempts u :=
  conclude_apply (operationName operation) hunreleased hclean ended hfaults

end CampaignDesk.Dispatch
