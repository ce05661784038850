import CampaignDesk.Proofs.Scheduler.OneWay

/-!
# What the desk says of its scheduler

* `World.Anchored`: the scheduler of the desk is one of the handles, after every session of steps that
  have to do with it.
* `Handle.report`: what is said of a handle. An error is there exactly if its task has failed, and it
  is the message of the failure, which may be empty.
* `askStart_busy`, `askStart_idle`, `launch_outcome`: a start is refused, fails without effect, or makes
  one more handle.
* `Desk.Standing`: what the desk answers, whatever state its scheduler is in.
* `background_answers`: **the desk always answers how its scheduler stands**, and answers a start unless
  the database is named by something that is no text.
-/

namespace CampaignDesk

open Act

namespace World

/-- The scheduler of the desk is one of the handles. -/
def Anchored (w : World) : Prop := ∀ n, w.scheduler = some n → n < w.handles.length

/-- The task of the desk's scheduler has not ended. -/
def Busy (w : World) : Prop :=
  ∃ n h, w.scheduler = some n ∧ w.handles[n]? = some h ∧ h.state.isDone = false

theorem Anchored.of_settled {w v : World} (hw : w.Anchored) (h : w.Settled v) : v.Anchored := by
  intro n hn
  rcases h.scheduler with hsame | ⟨m, hm, hlt⟩
  · exact Nat.lt_of_lt_of_le (hw n (hsame.symm.trans hn)) (OneWay.moved_length h.moved)
  · obtain rfl : m = n := Option.some.inj (hm.symm.trans hn)
    exact hlt

end World

/-- The failure that a task has ended with. -/
def Task.State.fault? : Task.State → Option Failure
  | .finished (.error f) => some f
  | _ => none

/-- What the desk says of a handle. -/
def Handle.report (h : Handle) : Entries :=
  Desk.statusEntries h.state.fault?.isNone h.status.name (h.state.fault?.map (·.message))

namespace Desk

variable {w : World} {n : Nat} {h : Handle}

@[simp] theorem lookup_success (success : Bool) (status : String) (error : Option Text) :
    Value.lookup? "success" (statusEntries success status error) = some (.bool success) := rfl

@[simp] theorem lookup_error (success : Bool) (status : String) (error : Option Text) :
    Value.lookup? "error" (statusEntries success status error) = error.map .text := by
  cases error <;> rfl

theorem askStatus_of_none (hw : w.scheduler = none) :
    askStatus w = (.ok (.dict (statusEntries true "idle" none)), w) := by
  simp only [askStatus, bind_apply, get_apply, hw, pure_apply]

theorem askStatus_of_some (hw : w.scheduler = some n) (hn : w.handles[n]? = some h) :
    askStatus w = (.ok (.dict h.report), w) := by
  simp only [askStatus, bind_apply, get_apply, hw, Scheduler.handle_ok hn]
  unfold Handle.report Handle.status
  rcases h.state with _ | _ | _ | (_ | _) <;> rfl

/-- What is said of the scheduler: an error is there exactly if it is said to have failed, and is the
message of the failure. -/
theorem askStatus_cases (hw : w.Anchored) : ∃ entries, askStatus w = (.ok (.dict entries), w) ∧
    ((w.scheduler = none ∧ entries = statusEntries true "idle" none) ∨
      ∃ n h, w.scheduler = some n ∧ w.handles[n]? = some h ∧ entries = h.report) := by
  rcases hscheduler : w.scheduler with _ | n
  · exact ⟨_, askStatus_of_none hscheduler, .inl ⟨rfl, rfl⟩⟩
  · have hn := List.getElem?_eq_getElem (hw n hscheduler)
    exact ⟨_, askStatus_of_some hscheduler hn, .inr ⟨n, _, rfl, hn, rfl⟩⟩

/-- A value that names a database, or leaves it to the default. -/
def namesDatabase : Value → Bool
  | .null | .text _ => true
  | _ => false

theorem database_ok {db : Value} (hdb : namesDatabase db = true) :
    ∃ d, Dispatch.database db w = (.ok d, w) := by
  cases db with
  | null => exact ⟨_, rfl⟩
  | text t => exact ⟨_, rfl⟩
  | bool | int | float | list | tuple | dict => cases hdb

theorem database_error {db : Value} (hdb : namesDatabase db = false) :
    Dispatch.database db w = (.error (.noAttribute db "strip"), w) := by
  cases db with
  | null | text => cases hdb
  | bool | int | float | list | tuple | dict => rfl

/-- How a start is answered. Only a start that succeeds leaves anything behind: one more handle. -/
theorem launch_outcome (db : Value) (w : World) :
    (namesDatabase db = true → ∃ v, Exclusive.launch db w =
      (.ok (.ok (.ofString "Scheduler started") .null), v) ∧
        v.scheduler = some w.handles.length ∧ w.handles.length < v.handles.length) ∧
    (namesDatabase db = false →
      Exclusive.launch db w = (.error (.noAttribute db "strip"), w)) := by
  rcases Exclusive.launch_cases db w with ⟨f, hf, hlaunch⟩ | ⟨d, v, hd, hsame, hlaunch⟩
  · refine ⟨fun hdb => ?_, fun hdb => ?_⟩
    · obtain ⟨d, hd⟩ := database_ok (w := w) hdb
      rw [hf] at hd
      cases hd
    · have hsame : (Except.error f, w) = (.error (.noAttribute db "strip"), w) :=
        hf.symm.trans (database_error hdb)
      cases hsame
      exact hlaunch
  · refine ⟨fun _ => ⟨_, hlaunch, ?_, ?_⟩, fun hdb => ?_⟩
    · unfold Exclusive.launched
      rw [hsame.handles]
    · unfold Exclusive.launched
      rw [hsame.handles, List.length_append]
      exact Nat.lt_succ_self _
    · rw [database_error hdb] at hd
      cases hd

theorem askStart_idle (hw : w.Anchored) (hidle : ¬ w.Busy) (db : Value) :
    askStart db w = Exclusive.launch db w := by
  rcases hscheduler : w.scheduler with _ | n
  · exact Exclusive.askStart_of_none db hscheduler
  have hn := List.getElem?_eq_getElem (hw n hscheduler)
  rw [Exclusive.askStart_of_some db hscheduler hn]
  split
  · rfl
  · rename_i hlive
    exact absurd ⟨n, _, hscheduler, hn, Bool.eq_false_iff.2 hlive⟩ hidle

theorem askStart_busy (hbusy : w.Busy) (db : Value) : askStart db w = (.ok alreadyRunning, w) := by
  obtain ⟨n, h, hscheduler, hn, hlive⟩ := hbusy
  rw [Exclusive.askStart_of_some db hscheduler hn, hlive]
  rfl

end Desk

/-- What the desk answers when it is asked for its scheduler, and when it is to start one. -/
structure Desk.Standing (w : World) : Prop where
  status : ∃ entries, askStatus w = (.ok (.dict entries), w) ∧
    (Value.lookup? "success" entries = some (.bool false) ↔
      ∃ t, Value.lookup? "error" entries = some (.text t)) ∧
    ∀ v, Value.lookup? "error" entries = some v → ∃ n h f, w.scheduler = some n ∧
      w.handles[n]? = some h ∧ h.state = .finished (.error f) ∧ v = .text f.message
  refused : w.Busy → ∀ db, askStart db w = (.ok alreadyRunning, w)
  started : ¬ w.Busy → ∀ db, namesDatabase db = true → ∃ v,
    askStart db w = (.ok (.ok (.ofString "Scheduler started") .null), v) ∧
      v.scheduler = some w.handles.length ∧ v.Anchored
  failed : ¬ w.Busy → ∀ db, namesDatabase db = false →
    askStart db w = (.error (.noAttribute db "strip"), w)

theorem Desk.report_standing {w : World} {n : Nat} {h : Handle} (hscheduler : w.scheduler = some n)
    (hn : w.handles[n]? = some h) :
    (Value.lookup? "success" h.report = some (.bool false) ↔
      ∃ t, Value.lookup? "error" h.report = some (.text t)) ∧
    ∀ v, Value.lookup? "error" h.report = some v → ∃ n h f, w.scheduler = some n ∧
      w.handles[n]? = some h ∧ h.state = .finished (.error f) ∧ v = .text f.message := by
  unfold Handle.report
  rw [lookup_success, lookup_error]
  rcases hstate : h.state with _ | _ | _ | (f | v)
  case finished.error =>
    refine ⟨⟨fun _ => ⟨f.message, rfl⟩, fun _ => rfl⟩, ?_⟩
    rintro v ⟨⟩
    exact ⟨n, h, f, hscheduler, hn, hstate, rfl⟩
  all_goals exact ⟨⟨nofun, nofun⟩, nofun⟩

theorem Desk.standing_of_anchored {w : World} (hw : w.Anchored) : Desk.Standing w where
  status := by
    obtain ⟨entries, heq, ⟨-, rfl⟩ | ⟨n, h, hscheduler, hn, rfl⟩⟩ := askStatus_cases hw
    · exact ⟨_, heq, ⟨nofun, nofun⟩, nofun⟩
    · exact ⟨_, heq, report_standing hscheduler hn⟩
  refused hbusy db := askStart_busy hbusy db
  started hidle db hdb := by
    obtain ⟨v, hlaunch, hscheduler, hlt⟩ := (launch_outcome db w).1 hdb
    refine ⟨v, (askStart_idle hw hidle db).trans hlaunch, hscheduler, fun n hn => ?_⟩
    rw [hscheduler] at hn
    cases hn
    exact hlt
  failed hidle db hdb := (askStart_idle hw hidle db).trans ((launch_outcome db w).2 hdb)

/-- **The desk answers for its scheduler.** After any session of steps that have to do with the
scheduler, with engines that end in any way, the desk says how its scheduler stands, and an error is
there exactly if it does not succeed: the message of the failure with which the task has ended. A start
is answered if the database is named by a text or left out. Any other value is passed on as a failure,
unless the scheduler is busy, and a start that does not succeed leaves everything as it was. -/
theorem background_answers (depth : Nat) {list : List Step} (hlist : ∀ step ∈ list, step.Schedules)
    {w : World} (hw : w.Driven) (hanchored : w.Anchored) :
    Desk.Standing (Session.steps depth list w).2 := by
  have hgood : OneWay.Good [] w := ⟨hw, List.forall_mem_nil _⟩
  obtain ⟨-, -, hsettled⟩ := OneWay.steps_agree (pure ()) depth [] list hlist w hgood
  exact Desk.standing_of_anchored (hanchored.of_settled hsettled)

/-- The engine fails, and the desk knows with what. -/
theorem background_answers_sample :
    let failure : Failure := .new .runtimeError "boom"
    let w := { Sample.world with script := ⟨[⟨false, none, .error failure⟩], 0⟩ }
    let v := (Session.steps 2 [.askStart .null, .pump none] w).2
    Desk.Standing v ∧ v.scheduler = some 0 ∧
      v.handles.map (·.state.fault?.map (·.message)) = [some (Text.ofString "boom")] := by
  intro failure w v
  have hlist : ∀ step ∈ [Step.askStart .null, .pump none], step.Schedules := by
    simp only [List.forall_mem_cons, List.not_mem_nil]
    exact ⟨.askStart _, .pump _, nofun⟩
  have hw : w.Driven := by
    refine ⟨fun n h hn => absurd (List.mem_of_getElem? hn) List.not_mem_nil, fun a ha => ?_⟩
    cases List.mem_singleton.1 ha
    exact nofun
  have hanchored : w.Anchored := by
    intro n hn
    cases hn
  have hstanding : Desk.Standing v := background_answers 2 hlist hw hanchored
  exact ⟨hstanding, by decide +kernel, by decide +kernel⟩

/-- **A number for the database is not answered at all, and an engine that fails without a word
leaves an empty error.** -/
theorem background_answers_fall_short :
    let silent : Failure := .new .runtimeError []
    let w := { Sample.world with script := ⟨[⟨false, none, .error silent⟩], 0⟩ }
    let v := (Session.steps 2 [.askStart .null, .pump none] w).2
    Desk.askStart (.int 5) w = (.error (.noAttribute (.int 5) "strip"), w) ∧
      ∃ entries, Desk.askStatus v = (.ok (.dict entries), v) ∧
        Value.lookup? "success" entries = some (.bool false) ∧
        Value.lookup? "error" entries = some (.text []) := by
  intro silent w v
  have hscheduler : v.scheduler = some 0 := by decide +kernel
  have hfault : v.handles[0]?.bind (·.state.fault?) =
      some ((Failure.new .engineError []).because silent) := by decide +kernel
  obtain ⟨h, hn, hstate⟩ := Option.bind_eq_some_iff.1 hfault
  refine ⟨rfl, h.report, Desk.askStatus_of_some hscheduler hn, ?_, ?_⟩
  · rw [Handle.report, hstate, Desk.lookup_success]
    rfl
  · rw [Handle.report, hstate, Desk.lookup_error]
    rfl

end CampaignDesk
