import CampaignDesk.Desk
import CampaignDesk.Proofs.Act

/-!
# One engine call

* `Remarking`, `Incidental`: relations that are kept by what is done besides, such as logging, by everybody
  and by an operation.
* `announce`, `closing`: what happens before and after a call. `callEngine_apply` puts them together
  around **the engine's own doing, which is all that an engine adds**.
-/

namespace CampaignDesk.Dispatch

open Act

/-- Worlds may change along `R` by a log record without an operation and by another engine in use. -/
structure Remarking (R : World → World → Prop) : Prop where
  remark : ∀ r : Record, r.operation = none → Within R (Act.note r)
  register : ∀ e, Within R (Engine.register e)

/-- Worlds may change along `R` by any log record and by another engine in use. -/
structure Incidental (R : World → World → Prop) : Prop extends Remarking R where
  note : ∀ r, Within R (Act.note r)

theorem Incidental.of_note {R : World → World → Prop} (hnote : ∀ r, Within R (Act.note r))
    (hregister : ∀ e, Within R (Engine.register e)) : Incidental R :=
  ⟨⟨fun r _ => hnote r, hregister⟩, hnote⟩

/-- What happens before a call: the engine is found. -/
def announce (operation : String) : Act EngineRef := do
  note .info operation (("Starting " : Text) ++ Text.ofString operation) none
  engine

/-- What happens after a call. -/
def closing (operation : String) : Except Failure Value → Act Value
  | .error f => do
    logFailed operation f
    throw (passedOn f)
  | .ok returned => do
    note .info operation (Text.ofString operation ++ (" completed" : Text)) none
    return returned

namespace Remarking

variable {R : World → World → Prop} [Std.Refl R] [Trans R R R] (h : Remarking R)

include h

theorem discover : Within R Engine.discover := by
  refine Within.get.bind fun w => Within.bind ?_ fun _ => Within.settle _
  exact Within.forM (fun _ => h.remark _ rfl) _

theorem inUse : Within R Engine.inUse := by
  refine Within.get.bind fun w => ?_
  split
  · exact .pure _
  · refine h.discover.bind fun catalogue => ?_
    split
    · exact (h.remark _ rfl).bind fun _ => (h.register _).bind fun _ => .pure _
    · exact (h.register _).bind fun _ => .pure _

theorem engine : Within R Dispatch.engine := by
  refine Within.get.bind fun w => ?_
  split
  · exact .pure _
  · exact h.inUse

theorem outcomeOf (f : Failure) (unexpected : Text) (jobs : Value) :
    Within R (Desk.outcomeOf f unexpected jobs) := by
  unfold Desk.outcomeOf
  split
  · exact .pure _
  · split
    · exact (h.remark _ rfl).bind fun _ => .pure _
    · exact .throw _

/-- What is asked at the desk does what its operation does. -/
theorem invoke {act : Act Unit} (hact : Within R act) (message : String) :
    Within R (Desk.invoke act message) := by
  refine hact.attempt.bind fun outcome => ?_
  cases outcome with
  | error f => exact h.outcomeOf f _ _
  | ok => exact .pure _

end Remarking

namespace Incidental

variable {R : World → World → Prop} [Std.Refl R] [Trans R R R] (h : Incidental R)

include h

theorem announce (operation : String) : Within R (Dispatch.announce operation) :=
  (h.note _).bind fun _ => h.engine

omit [Trans R R R] in
theorem logFailed (operation : String) (f : Failure) : Within R (Dispatch.logFailed operation f) := by
  unfold Dispatch.logFailed
  split
  · exact h.note _
  · split
    · exact h.note _
    · exact .pure _

theorem closing (operation : String) (outcome : Except Failure Value) :
    Within R (Dispatch.closing operation outcome) := by
  cases outcome with
  | error f => exact (h.logFailed operation f).bind fun _ => .throw _
  | ok returned => exact (h.note _).bind fun _ => .pure _

end Incidental

/-- What is answered at the desk depends only on how the operation ended. -/
theorem invoke_congr {act act' : Act Unit} {w v : World} (h : act w = act' v) (message : String) :
    Desk.invoke act message w = Desk.invoke act' message v := by
  simp only [Desk.invoke, bind_apply, attempt_apply, h]

/-- **A call is what comes before it, the engine's own doing, and what comes after it.** -/
theorem callEngine_apply (call : Call) (operation : String) (order : Order) (w : World) :
    callEngine call operation order w = match announce operation w with
      | (.ok e, v) => closing operation (call e order v).1 (call e order v).2
      | (.error f, v) => closing operation (.error f) v := by
  have hnote : note .info operation (("Starting " : Text) ++ Text.ofString operation) none w =
      (.ok (), _) := rfl
  unfold callEngine announce
  rw [bind_ok hnote, bind_ok hnote]
  simp only [bind_apply, attempt_apply]
  rcases engine _ with ⟨f | e, v⟩
  · rfl
  · simp only
    rcases call e order v with ⟨f | returned, u⟩ <;> rfl

/-- What comes after the call is the same for a failure to find the engine and for one of its own. -/
theorem callEngine_asked (call : Call) (operation : String) (order : Order) (w : World) :
    callEngine call operation order w =
      closing operation ((announce operation >>= fun e => call e order) w).1
        ((announce operation >>= fun e => call e order) w).2 := by
  rw [callEngine_apply, bind_apply]
  rcases announce operation w with ⟨f | e, v⟩ <;> rfl

theorem callEngine_bind {α : Type} (call : Call) (operation : String) (order : Order)
    (next : Value → Act α) (w : World) :
    (callEngine call operation order >>= next) w =
      (closing operation ((announce operation >>= fun e => call e order) w).1 >>= next)
        ((announce operation >>= fun e => call e order) w).2 := by
  rw [bind_apply, callEngine_asked, bind_apply (closing _ _)]

/-- To settle on a database changes nothing. -/
theorem database_of_ifBlank {db d : Value} (h : Defaults.ifBlank? db Defaults.schedulerDb = .ok d)
    (w : World) : database db w = (.ok d, w) := by
  rw [database, settle_apply, h]

/-- A run of the scheduler is one call, on the database that is meant. -/
theorem runScheduler_apply {db d : Value} (h : Defaults.ifBlank? db Defaults.schedulerDb = .ok d)
    (call : Call) (w : World) : runScheduler call db w =
      (do let _ ← callEngine call "scheduler" (schedulerOrder d) : Act Unit) w := by
  rw [runScheduler, bind_ok (database_of_ifBlank h w)]

/-- Calls of engines that do the same are the same. -/
theorem callEngine_agrees {P : World → Prop} {R S : World → World → Prop} [Std.Refl S] [Trans S S S]
    [Trans R R R] (hS : Incidental S) (hkeep : ∀ w v, S w v → P w → P v ∧ R w v)
    {call call' : Call} {order : Order} (h : ∀ e, Agree P R (call e order) (call' e order))
    (operation : String) :
    Agree P R (callEngine call operation order) (callEngine call' operation order) := by
  intro w hw
  rw [callEngine_apply, callEngine_apply]
  have hbefore := hkeep _ _ (hS.announce operation w) hw
  have hafter (outcome : Except Failure Value) :=
    Agree.of_within (P := P) (R := R) (hS.closing operation outcome) hkeep
  rcases hann : announce operation w with ⟨f | e, v⟩ <;> rw [hann] at hbefore
  · obtain ⟨-, hP, hR⟩ := hafter (.error f) v hbefore.1
    exact ⟨rfl, hP, Trans.trans hbefore.2 hR⟩
  · obtain ⟨heq, hP, hR⟩ := h e v hbefore.1
    obtain ⟨-, hP', hR'⟩ := hafter (call e order v).1 (call e order v).2 hP
    exact ⟨by simp only [heq], hP', Trans.trans hbefore.2 (Trans.trans hR hR')⟩

/-- A call moves along a relation that logging and the registry keep, if the engine does. -/
theorem Incidental.callEngine {R : World → World → Prop} [Std.Refl R] [Trans R R R]
    (h : Incidental R) {call : Call} {order : Order} (hcall : ∀ e, Within R (call e order))
    (operation : String) : Within R (Dispatch.callEngine call operation order) := by
  intro w
  rw [callEngine_apply]
  have hbefore := h.announce operation w
  rcases hann : Dispatch.announce operation w with ⟨f | e, v⟩ <;> rw [hann] at hbefore
  · exact Trans.trans hbefore (h.closing operation (.error f) v)
  · exact Trans.trans hbefore (Trans.trans (hcall e v) (h.closing operation _ _))

end CampaignDesk.Dispatch
