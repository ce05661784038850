import CampaignDesk.Proofs.Scheduler.OneWay
import CampaignDesk.Proofs.Session.OneMode

/-!
# Handles in any session

Whatever is done in a session, and whatever engines, targets and listeners do meanwhile, a handle stays
where it is, keeps its database and its target, and its task follows the rules of tasks.

* `Handles.attended`: to tell listeners lets all handles go on. `Handles.hosting`: so does everything but
  engine calls.
* `Handles.steps_moved`: **every step lets all handles go on**, at every depth.
-/

namespace CampaignDesk.Handles

open Act World OneWay

variable {nested : Scheduler.Nested} {call : Dispatch.Call}

/-- Steps inside a call let all handles go on. -/
abbrev Moving (nested : Scheduler.Nested) : Prop :=
  NestedAgree (fun _ => True) (fun _ => True) Moved nested nested

theorem steady_keeps (w v : World) (h : Steady w v) (_ : True) : True ∧ Moved w v :=
  ⟨trivial, moved_of_handles h.handles⟩

theorem sameDesk_keeps (w v : World) (h : Exclusive.SameDesk w v) (_ : True) : True ∧ Moved w v :=
  ⟨trivial, moved_of_handles h.handles⟩

theorem moved_incidental : Dispatch.Incidental Moved :=
  .of_note (fun r w => moved_of_handles (Orders.note_steady r w).handles) fun _ _ => moved_of_handles rfl

/-- To add and to tell listeners lets all handles go on. -/
theorem attended : Attended (fun _ => True) (fun _ => True) Moved Steady where
  toBeside := Orders.steady_beside
  added _ := Orders.record_steady rfl
  told _ _ := Orders.record_steady rfl
  keeps := steady_keeps
  listeners _ _ _ _ _ _ _ _ _ _ _ := trivial
  update _ _ hg _ := fun _ _ =>
    ⟨rfl, trivial, moved_modify fun h _ => ⟨hg.db h, hg.target h, by rw [hg.state]⟩⟩

theorem add_moved (h : Handle) : Within Moved (Scheduler.add h) := by
  intro w n k hn
  have hlt := (List.getElem?_eq_some_iff.1 hn).1
  exact ⟨k, (List.getElem?_append_left hlt).trans hn, continues_refl k⟩

/-- Everything but engine calls lets all handles go on. -/
theorem hosting : Hosting (fun _ => True) (fun _ => True) Moved Steady :=
  { attended, Orders.steady_elsewhere with
    targets := fun _ _ _ _ _ t _ => by
      cases t with
      | scheduler => trivial
      | steps => exact fun _ _ _ _ => trivial
    joined := fun h _ w _ => ⟨rfl, trivial, add_moved h w⟩
    stated := fun _ _ _ _ _ hn hleads => ⟨trivial, moved_stated hn hleads⟩
    scheduled := fun _ _ => ⟨rfl, rfl, rfl, rfl, rfl⟩ }

/-- **Every step lets all handles go on**, if engines and steps inside of calls do. -/
theorem perform_moved (hnested : Moving nested) (hcall : ∀ e order, Within Moved (call e order))
    (step : Step) : Within Moved (Session.perform call nested step) := by
  have hagree {α : Type} {act : Act α} (h : Within Moved act) : Agree (fun _ => True) Moved act act :=
    Agree.of_within h fun _ _ hmoved _ => ⟨trivial, hmoved⟩
  refine (hosting.perform_agrees (fun operation order => hagree ?_) hnested (fun _ _ => trivial)
    (fun _ hstep => ?_) fun e order => hagree (hcall e order)).within
  · exact moved_incidental.callEngine (fun e => hcall e order) operation
  · rw [hstep]
    exact hagree fun w => moved_of_handles rfl

/-! ## Sessions -/

/-- **A session lets all handles go on**, at every depth. -/
theorem steps_moving (depth : Nat) : Moving (Session.steps depth) := by
  induction depth with
  | zero => exact fun list _ => Agree.of_eq fun _ => rfl
  | succ depth ih =>
    refine fun list _ => Agree.mapM fun step _ => ?_
    have henter (e : EngineRef) (order : Order) :
        Within Moved (Session.enter (Session.steps depth) e order) :=
      (Session.enter_agrees Exclusive.sameDesk_aside sameDesk_keeps (fun _ _ _ _ _ _ _ _ => trivial) ih
        e order).within
    exact Session.answer_agrees Exclusive.sameDesk_aside sameDesk_keeps
      (Agree.of_within (perform_moved ih henter step) fun _ _ h _ => ⟨trivial, h⟩)

theorem steps_moved (depth : Nat) (list : List Step) : Within Moved (Session.steps depth list) :=
  (steps_moving depth list fun _ _ => trivial).within

end CampaignDesk.Handles
