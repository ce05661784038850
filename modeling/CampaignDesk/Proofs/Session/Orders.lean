import CampaignDesk.Proofs.Dispatch.Once
import CampaignDesk.Proofs.Session.Nested

/-!
# The orders of a session

* `Journal.asked`: the orders that engines were called with, each under the number of its step.
  `Journal.OnePerStep`: they are well posed, and there is one for each step at most.
* `Step.Serves`: the steps of a session in which nobody but the service calls engines.
* `World.Steady`, `World.Orderly`: worlds with the same orders, and worlds between which engines were
  called in an orderly way.
* `Orders.attended`: to add and to tell listeners is orderly. `Orders.enter_records`: a call is recorded
  under the number of the present step.
* `Orders.answering_keeps`: **a step that comes to one engine call at most is orderly**, with the calls
  inside of it.
-/

namespace CampaignDesk

open Act

/-- The order of an engine call. -/
def Entry.order? : Entry → Option Order
  | .call c => some c.order
  | _ => none

/-- The orders that engines were called with, each with the number of the step during which it was. -/
def Journal.asked (journal : Journal) : List (Nat × Order) :=
  journal.filterMap fun (n, e) => e.order?.map fun order => (n, order)

/-- Orders under the numbers of steps from `first` on and before `last`: one for each step at most, and
all of them well posed. -/
structure Journal.OnePerStep (first last : Nat) (asked : List (Nat × Order)) : Prop where
  nodup : (asked.map Prod.fst).Nodup
  range : ∀ r ∈ asked, first ≤ r.1 ∧ r.1 < last
  wellPosed : ∀ r ∈ asked, r.2.WellPosed

/-! ## Sessions of the service and the desk -/

/-- A step that neither calls an engine itself nor has others take steps. -/
def Step.isPlain : Step → Bool
  | .callEngine .. | .startHandle .. | .listen .. | .withTemp .. => false
  | _ => true

/-- A step that does not call an engine itself, and inside of which nobody takes such a step. -/
inductive Step.Serves : Step → Prop
  | plain {step : Step} (h : step.isPlain = true) : Serves step
  | startHandle (db : Value) {during : Option (List Step)} (outcome : Except Failure Value)
      (h : ∀ steps, during = some steps → ∀ s ∈ steps, Serves s) :
      Serves (.startHandle db during outcome)
  | listen (handle : Option Nat) (name : Text) {during : Option (List Step)}
      (failure : Option Failure) (h : ∀ steps, during = some steps → ∀ s ∈ steps, Serves s) :
      Serves (.listen handle name during failure)
  | withTemp (files : Option Nat) {body : List Step} (failure : Option Failure)
      (h : ∀ s ∈ body, Serves s) : Serves (.withTemp files body failure)

/-- A target that takes such steps, if it takes any. -/
def Target.Serves : Target → Prop
  | .scheduler _ => True
  | .steps during _ => Taking Step.Serves during

/-- The target and the listeners of a handle take such steps only. -/
structure Handle.Serves (h : Handle) : Prop where
  target : ∀ t, h.target = some t → t.Serves
  listeners : ∀ l ∈ h.listeners, Taking Step.Serves l.during

namespace World

/-- Whatever is called from such a world takes such steps only. -/
structure Serving (w : World) : Prop where
  handles : ∀ (n : Nat) (h : Handle), w.handles[n]? = some h → h.Serves
  script : ∀ a ∈ w.script.actions, Taking Step.Serves a.during

/-- The orders, the numbers of steps, the handles and what engines will do are the same. -/
structure Steady (w v : World) : Prop where
  asked : v.journal.asked = w.journal.asked
  current : v.current = w.current
  steps : v.steps = w.steps
  handles : v.handles = w.handles
  actions : v.script.actions = w.script.actions

/-- In between, some steps may have been taken. Engines were called with well posed orders, and during
each of those steps once at most. -/
structure Orderly (w v : World) : Prop where
  current : v.current = w.current
  steps : w.steps ≤ v.steps
  asked : ∃ new, v.journal.asked = w.journal.asked ++ new ∧ Journal.OnePerStep w.steps v.steps new

end World

namespace Orders

open World

variable {w v u : World} {n : Nat} {h : Handle}

/-! ## One order per step -/

theorem onePerStep_nil (first last : Nat) : Journal.OnePerStep first last [] :=
  ⟨List.nodup_nil, List.forall_mem_nil _, List.forall_mem_nil _⟩

theorem onePerStep_singleton {order : Order} (h : order.WellPosed) {first last : Nat}
    (hlt : first < last) : Journal.OnePerStep first last [(first, order)] :=
  ⟨by simp, List.forall_mem_singleton.2 ⟨Nat.le_refl _, hlt⟩,
    List.forall_mem_singleton.2 h⟩

theorem onePerStep_mono {first first' last last' : Nat} {asked : List (Nat × Order)}
    (h : Journal.OnePerStep first last asked) (hfirst : first' ≤ first) (hlast : last ≤ last') :
    Journal.OnePerStep first' last' asked :=
  ⟨h.nodup, fun r hr => ⟨Nat.le_trans hfirst (h.range r hr).1, Nat.lt_of_lt_of_le (h.range r hr).2 hlast⟩,
    h.wellPosed⟩

/-- Two parts of a session that have no step in common. -/
theorem onePerStep_append {first last : Nat} {asked asked' : List (Nat × Order)}
    (h : Journal.OnePerStep first last asked) (h' : Journal.OnePerStep first last asked')
    (hapart : ∀ r ∈ asked, ∀ r' ∈ asked', r.1 ≠ r'.1) :
    Journal.OnePerStep first last (asked ++ asked') := by
  refine ⟨?_, List.forall_mem_append.2 ⟨h.range, h'.range⟩,
    List.forall_mem_append.2 ⟨h.wellPosed, h'.wellPosed⟩⟩
  rw [List.map_append, List.nodup_append]
  refine ⟨h.nodup, h'.nodup, fun a ha b hb => ?_⟩
  obtain ⟨r, hr, rfl⟩ := List.mem_map.1 ha
  obtain ⟨r', hr', rfl⟩ := List.mem_map.1 hb
  exact hapart r hr r' hr'

/-! ## What keeps the orders of a session -/

instance : Std.Refl Steady := ⟨fun _ => ⟨rfl, rfl, rfl, rfl, rfl⟩⟩

instance : Trans Steady Steady Steady :=
  ⟨fun h h' => ⟨h'.asked.trans h.asked, h'.current.trans h.current, h'.steps.trans h.steps,
    h'.handles.trans h.handles, h'.actions.trans h.actions⟩⟩

/-- Worlds with the same orders and the same numbers of steps. -/
theorem orderly_of_same (hasked : v.journal.asked = w.journal.asked) (hcurrent : v.current = w.current)
    (hsteps : v.steps = w.steps) : Orderly w v :=
  ⟨hcurrent, Nat.le_of_eq hsteps.symm, [], by rw [hasked, List.append_nil], onePerStep_nil _ _⟩

instance : Std.Refl Orderly := ⟨fun _ => orderly_of_same rfl rfl rfl⟩

instance : Trans Orderly Orderly Orderly where
  trans h h' := by
    obtain ⟨new, hnew, hone⟩ := h.asked
    obtain ⟨new', hnew', hone'⟩ := h'.asked
    refine ⟨h'.current.trans h.current, Nat.le_trans h.steps h'.steps, new ++ new', ?_, ?_⟩
    · rw [hnew', hnew, List.append_assoc]
    · -- the steps of the second part begin after those of the first
      refine onePerStep_append (onePerStep_mono hone (Nat.le_refl _) h'.steps)
        (onePerStep_mono hone' h.steps (Nat.le_refl _)) fun r hr r' hr' => ?_
      have hlt := (hone.range r hr).2
      have hle := (hone'.range r' hr').1
      omega

theorem asked_append (j k : Journal) : (j ++ k : Journal).asked = j.asked ++ k.asked :=
  List.filterMap_append ..

theorem record_steady {e : Entry} (he : e.order? = none) : Within Steady (record e) := by
  intro w
  refine ⟨?_, rfl, rfl, rfl, rfl⟩
  rw [record_apply, asked_append]
  simp [Journal.asked, he]

theorem note_steady (r : Record) : Within Steady (Act.note r) :=
  (record_steady rfl).bind fun _ _ => ⟨rfl, rfl, rfl, rfl, rfl⟩

theorem steady_incidental : Dispatch.Incidental Steady :=
  .of_note note_steady fun _ _ => ⟨rfl, rfl, rfl, rfl, rfl⟩

theorem steady_beside : Beside Steady where
  toRemarking := steady_incidental.toRemarking
  during _ := record_steady rfl
  took _ _ := record_steady rfl
  counted _ _ := ⟨rfl, rfl, rfl, rfl, rfl⟩
  stored _ _ := ⟨rfl, rfl, rfl, rfl, rfl⟩

theorem steady_housekeeping : Housekeeping Steady :=
  .of_files (fun _ _ _ _ => ⟨rfl, rfl, rfl, rfl, rfl⟩) fun r _ => note_steady r

theorem Serving.of_same (hw : w.Serving) (hhandles : v.handles = w.handles)
    (hactions : v.script.actions = w.script.actions) : v.Serving := by
  refine ⟨?_, ?_⟩
  · rw [hhandles]
    exact hw.handles
  · rw [hactions]
    exact hw.script

theorem steady_keeps (w v : World) (h : Steady w v) (hw : w.Serving) : v.Serving ∧ Orderly w v :=
  ⟨Serving.of_same hw h.handles h.actions, orderly_of_same h.asked h.current h.steps⟩

/-! ## Handles -/

/-- A handle changes, and what it calls stays of the same kind. -/
theorem update_keeps {g : Handle → Handle} (hg : ∀ h : Handle, h.Serves → (g h).Serves) :
    Agree Serving Orderly (Scheduler.update n g) (Scheduler.update n g) := by
  intro w hw
  refine ⟨rfl, ⟨fun m k hk => ?_, hw.script⟩, orderly_of_same rfl rfl rfl⟩
  obtain ⟨h, hm, rfl | ⟨-, rfl⟩⟩ := Scheduler.modified_cases hk
  · exact hw.handles m k hm
  · exact hg h (hw.handles m h hm)

/-- To add and to tell listeners keeps the orders of a session. -/
theorem attended : Attended Step.Serves Serving Orderly Steady where
  toBeside := steady_beside
  added _ := record_steady rfl
  told _ _ := record_steady rfl
  keeps := steady_keeps
  listeners _ n h hw hn := (hw.handles n h hn).listeners
  update n g hg hlisteners := update_keeps fun h hh => by
    refine ⟨?_, hlisteners h hh.listeners⟩
    rw [hg.target]
    exact hh.target

/-- A task comes to another state. -/
theorem stated_keeps (state : Task.State) :
    Agree Serving Orderly (Scheduler.update n fun h => { h with state := state })
      (Scheduler.update n fun h => { h with state := state }) :=
  update_keeps fun _ hh => ⟨hh.target, hh.listeners⟩

/-- A handle joins the others. -/
theorem add_keeps {h : Handle} (hh : h.Serves) :
    Agree Serving Orderly (Scheduler.add h) (Scheduler.add h) := by
  intro w hw
  refine ⟨rfl, ⟨fun m k hk => ?_, hw.script⟩, orderly_of_same rfl rfl rfl⟩
  rcases List.mem_append.1 (List.mem_of_getElem? hk) with hk | hk
  · obtain ⟨i, hi⟩ := List.mem_iff_getElem?.1 hk
    exact hw.handles i k hi
  · rw [List.mem_singleton.1 hk]
    exact hh

/-! ## Calls -/

/-- The world once a script has counted and recorded a call. -/
def recorded (w : World) (c : Call) : World := { w with
  script := { w.script with calls := w.script.calls + 1 }
  journal := w.journal ++ [(w.current, .call c)] }

/-- A call of an engine is recorded at once, if at all, and what follows is orderly. -/
theorem enter_records {nested : Scheduler.Nested}
    (hnested : NestedAgree Step.Serves Serving Orderly nested nested) (e : EngineRef) (order : Order)
    (hw : w.Serving) :
    ∃ own v, (own = [] ∨ own = [(w.current, order)]) ∧
      v.journal.asked = w.journal.asked ++ own ∧ v.steps = w.steps ∧
      (Session.enter nested e order w).2.Serving ∧ Orderly v (Session.enter nested e order w).2 := by
  cases e with
  | missing =>
    exact ⟨[], w, .inl rfl, (List.append_nil _).symm, rfl, hw, Std.Refl.refl w⟩
  | scripted tag =>
    have henact := Session.enact_agrees steady_beside steady_keeps hnested
      ((Session.filesOf w.store order).map (·.1)) (Session.nextAction_taking hw.script)
    have hrecorded : (recorded w ⟨order, Session.filesOf w.store order, tag⟩).Serving :=
      Serving.of_same hw rfl rfl
    obtain ⟨-, hserving, horderly⟩ := henact _ hrecorded
    exact ⟨[(w.current, order)], recorded w ⟨order, Session.filesOf w.store order, tag⟩, .inr rfl,
      asked_append w.journal [_], rfl, hserving, horderly⟩

/-! ## Steps -/

/-- A step begins under the next number. -/
def begun (w : World) : World := { w with current := w.steps, steps := w.steps + 1 }

theorem answering_apply (act : Act Reply) (w : World) :
    Session.answering act w =
      (.ok ⟨w.steps, (act (begun w)).1, (act (begun w)).2.store.files⟩,
        { (act (begun w)).2 with current := w.current }) := rfl

/-- A step that was orderly apart from one call of its own was orderly. -/
theorem orderly_answered {own : List (Nat × Order)} (hbefore : Orderly (begun w) v)
    (hown : Journal.OnePerStep w.steps (w.steps + 1) own) {called : World}
    (hcalled : called.journal.asked = v.journal.asked ++ own) (hsteps : called.steps = v.steps)
    (hafter : Orderly called u) : Orderly w { u with current := w.current } := by
  obtain ⟨new, hnew, hone⟩ := hbefore.asked
  obtain ⟨new', hnew', hone'⟩ := hafter.asked
  have hfirst : w.steps + 1 ≤ v.steps := hbefore.steps
  have hlast : called.steps ≤ u.steps := hafter.steps
  rw [hsteps] at hlast hone'
  refine ⟨rfl, by simp only; omega, new ++ own ++ new', ?_, ?_⟩
  · change u.journal.asked = _
    rw [hnew', hcalled, hnew]
    simp only [List.append_assoc]
    rfl
  · -- the steps inside are numbered after the step itself
    have hrange : ∀ r ∈ new, w.steps + 1 ≤ r.1 ∧ r.1 < v.steps := hone.range
    have hinside : Journal.OnePerStep w.steps u.steps (new ++ own) := by
      refine onePerStep_append (onePerStep_mono hone (Nat.le_succ _) hlast)
        (onePerStep_mono hown (Nat.le_refl _) (by omega)) fun r hr r' hr' => ?_
      have hr := hrange r hr
      have hr' := hown.range r' hr'
      omega
    refine onePerStep_append hinside (onePerStep_mono hone' (by omega) (Nat.le_refl _))
      fun r hr r' hr' => ?_
    have hr' := hone'.range r' hr'
    rcases List.mem_append.1 hr with hr | hr
    · have hr := hrange r hr
      omega
    · have hr := hown.range r hr
      omega

/-- **A step that comes to one engine call at most is orderly.** -/
theorem answering_keeps {nested : Scheduler.Nested}
    (hnested : NestedAgree Step.Serves Serving Orderly nested nested)
    {op : Dispatch.Call → Act Reply}
    (hop : ∀ w, w.Serving → Dispatch.AsksOnce Serving Orderly op w) :
    Agree Serving Orderly (Session.answering (op (Session.enter nested)))
      (Session.answering (op (Session.enter nested))) := by
  intro w hw
  refine ⟨rfl, ?_⟩
  have hbegun : (begun w).Serving := Serving.of_same hw rfl rfl
  rw [answering_apply]
  cases hop (begun w) hbegun with
  | never ended keeps eq =>
    rw [eq]
    exact ⟨Serving.of_same keeps.1 rfl rfl,
      orderly_answered keeps.2 (onePerStep_nil _ _) (List.append_nil _).symm rfl (Std.Refl.refl _)⟩
  | once e order v next wellPosed before after eq =>
    obtain ⟨own, called, hown, hcalled, hsteps, hserving, horderly⟩ :=
      enter_records hnested e order before.1
    obtain ⟨hended, hR⟩ := after _ hserving
    have hnumber : v.current = w.steps := before.2.current
    have hone : Journal.OnePerStep w.steps (w.steps + 1) own := by
      rcases hown with rfl | rfl
      · exact onePerStep_nil _ _
      · rw [hnumber]
        exact onePerStep_singleton wellPosed (Nat.lt_succ_self _)
    rw [eq]
    exact ⟨Serving.of_same hended rfl rfl,
      orderly_answered before.2 hone hcalled hsteps (Trans.trans horderly hR)⟩

end Orders

end CampaignDesk
