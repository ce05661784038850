import CampaignDesk.Proofs.Dispatch.Call

/-!
# Changes that operations do not notice

A change of the world goes unnoticed by an operation that ends in the same way with it and without it,
and leaves it in place. Two runs that differ by such a change are then one run, seen twice.

* `Act.Blind`: an operation does not notice a change. Every way of putting operations together keeps
  this; what an operation reads of the world has to be the same with the change.
* `Dispatch.Unnoticed`: changes that logging, the registry and the service have nothing to do with.
  `Unnoticed.callEngine`: **an engine call notices them only if the engine does.**
-/

namespace CampaignDesk

variable {α β : Type}

namespace Act

/-- From a world changed by `g` the operation does what it does without the change, and leaves the change
in place. -/
def Blind (g : World → World) (act : Act α) : Prop := ∀ w, act (g w) = ((act w).1, g (act w).2)

namespace Blind

variable {g : World → World}

theorem pure (a : α) : Blind g (Pure.pure a : Act α) := fun _ => rfl

theorem throw (f : Failure) : Blind g (MonadExcept.throw f : Act α) := fun _ => rfl

theorem settle (outcome : Except Failure α) : Blind g (Act.settle outcome) := fun _ => rfl

theorem attempt {act : Act α} (h : Blind g act) : Blind g (Act.attempt act) := by
  intro w
  rw [attempt_apply, attempt_apply, h w]

theorem bind {act : Act α} {next : α → Act β} (h : Blind g act) (h' : ∀ a, Blind g (next a)) :
    Blind g (act >>= next) := by
  intro w
  rw [bind_apply, bind_apply, h w]
  rcases act w with ⟨f | a, v⟩
  · rfl
  · exact h' a v

/-- What is read of the world is the same with the change. -/
theorem reads {next : World → Act α} (hsame : ∀ w, next (g w) = next w)
    (h : ∀ w, Blind g (next w)) : Blind g (get >>= next) := by
  intro w
  rw [bind_apply, bind_apply, get_apply, get_apply]
  simp only [hsame]
  exact h w w

theorem forM {ι : Type} {act : ι → Act PUnit} (h : ∀ i, Blind g (act i)) (l : List ι) :
    Blind g (l.forM act) := by
  induction l with
  | nil => exact pure _
  | cons i l ih => exact (h i).bind fun _ => ih

end Blind

end Act

namespace Dispatch

open Act

/-- Changes that logging and the search for engines have nothing to do with. -/
structure Unnoticed (g : World → World) : Prop where
  note : ∀ r, Blind g (Act.note r)
  register : ∀ e, Blind g (Engine.register e)
  registry : ∀ w, (g w).registry = w.registry
  service : ∀ w, (g w).service = w.service

namespace Unnoticed

variable {g : World → World} (h : Unnoticed g)

include h

theorem discover : Blind g Engine.discover := by
  refine Blind.reads (fun w => by rw [h.registry]) fun w => ?_
  exact Blind.bind (Blind.forM (fun _ => h.note _) _) fun _ => .settle _

theorem inUse : Blind g Engine.inUse := by
  refine Blind.reads (fun w => by rw [h.registry]) fun w => ?_
  split
  · exact .pure _
  · refine h.discover.bind fun catalogue => ?_
    split
    · exact (h.note _).bind fun _ => (h.register _).bind fun _ => .pure _
    · exact (h.register _).bind fun _ => .pure _

theorem engine : Blind g Dispatch.engine := by
  refine Blind.reads (fun w => by rw [h.service]) fun w => ?_
  split
  · exact .pure _
  · exact h.inUse

theorem announce (operation : String) : Blind g (Dispatch.announce operation) :=
  (h.note _).bind fun _ => h.engine

theorem logFailed (operation : String) (f : Failure) : Blind g (Dispatch.logFailed operation f) := by
  unfold Dispatch.logFailed
  split
  · exact h.note _
  · split
    · exact h.note _
    · exact .pure _

theorem closing (operation : String) (outcome : Except Failure Value) :
    Blind g (Dispatch.closing operation outcome) := by
  cases outcome with
  | error f => exact (h.logFailed operation f).bind fun _ => .throw _
  | ok returned => exact (h.note _).bind fun _ => .pure _

/-- **An engine call notices such a change only if the engine does.** -/
theorem callEngine {call : Call} {order : Order} (hcall : ∀ e, Blind g (call e order))
    (operation : String) : Blind g (Dispatch.callEngine call operation order) := by
  intro w
  rw [callEngine_apply, callEngine_apply, h.announce operation w]
  rcases Dispatch.announce operation w with ⟨f | e, v⟩
  · exact h.closing operation (.error f) v
  · simp only [hcall e v]
    exact h.closing operation (call e order v).1 (call e order v).2

end Unnoticed

end Dispatch

end CampaignDesk
