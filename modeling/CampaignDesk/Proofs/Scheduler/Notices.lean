import CampaignDesk.Proofs.Scheduler.Handle

/-!
# What listeners are told, as the journal has it

* `Notice`, `Journal.notices`: the entries of the journal that have to do with listeners.
* `Informed`: **all who wait are told in order, and whoever comes late right away.** `Informed.once`
  counts: nobody is left out and nobody is told twice.
* `Follows`: how a handle may go on. It waits and gathers listeners, its task ends and they are
  told, or it has ended already.
* `Advance`: the same for a handle of a world, along with the notices in the journal.
-/

namespace CampaignDesk

/-- A listener is added to a handle, or is told of its end and sees a status. -/
inductive Notice
  | added (who : Text)
  | told (who : Text) (status : Task.Status)
deriving DecidableEq

/-- The notice in an entry of the journal. -/
def Entry.notice? : Entry → Option Notice
  | .added who => some (.added who)
  | .told who status => some (.told who status)
  | _ => none

/-- The notices, in order. -/
def Journal.notices (journal : Journal) : List Notice :=
  journal.filterMap fun (_, e) => e.notice?

/-- The names of those who listen to a handle and have not been told. -/
def Handle.names (h : Handle) : List Text := h.listeners.map (·.name)

@[simp] theorem Journal.notices_append (journal more : Journal) :
    Journal.notices (journal ++ more) = journal.notices ++ Journal.notices more :=
  List.filterMap_append

theorem notices_noted (w : World) (e : Entry) :
    (Scheduler.noted w e).journal.notices = w.journal.notices ++ e.notice?.toList := by
  unfold Scheduler.noted
  rw [Journal.notices_append]
  cases e <;> rfl

/-- When a task has ended with a status those who wait are told of it in order. Whoever is added
afterwards is told right away, whether or not others still wait. -/
inductive Informed (status : Task.Status) : (waiting : List Text) → List Notice → Prop
  | done : Informed status [] []
  | next {who : Text} {waiting : List Text} {later : List Notice}
      (h : Informed status waiting later) :
      Informed status (who :: waiting) (.told who status :: later)
  | late {who : Text} {waiting : List Text} {later : List Notice}
      (h : Informed status waiting later) :
      Informed status waiting (.added who :: .told who status :: later)

namespace Informed

variable {status : Task.Status} {waiting more : List Text} {es later : List Notice}

theorem append (h : Informed status waiting es) (h' : Informed status more later) :
    Informed status (waiting ++ more) (es ++ later) := by
  induction h with
  | done => exact h'
  | next _ ih => exact .next ih
  | late _ ih => exact .late ih

/-- **Exactly once**: one is told as often as one was waiting or has been added since. -/
theorem once (h : Informed status waiting later) (who : Text) :
    later.count (.told who status) = waiting.count who + later.count (.added who) := by
  induction h with
  | done => rfl
  | next _ ih =>
    rw [List.count_cons, List.count_cons, List.count_cons, ih]
    simp only [beq_iff_eq, Notice.told.injEq, and_true, reduceCtorEq, if_false]
    omega
  | late _ ih =>
    rw [List.count_cons, List.count_cons, List.count_cons, List.count_cons, ih]
    simp only [beq_iff_eq, Notice.told.injEq, Notice.added.injEq, and_true, reduceCtorEq, if_false]
    omega

/-- All see the same status. -/
theorem status_eq (h : Informed status waiting later) {who : Text} {seen : Task.Status}
    (hseen : .told who seen ∈ later) : seen = status := by
  induction h with
  | done => cases hseen
  | next _ ih =>
    rcases List.mem_cons.1 hseen with heq | hmem
    · cases heq
      rfl
    · exact ih hmem
  | late _ ih =>
    rcases List.mem_cons.1 hseen with heq | hmem
    · cases heq
    rcases List.mem_cons.1 hmem with heq | hmem
    · cases heq
      rfl
    · exact ih hmem

end Informed

/-! ## How a handle goes on -/

/-- The notices made while one handle becomes another. -/
inductive Progress (h h' : Handle) : List Notice → Prop
  /-- Listeners gather. -/
  | waits (names : List Text) (before : h.notified = false) (after : h'.notified = false)
      (gathered : h'.names = h.names ++ names) : Progress h h' (names.map .added)
  /-- The task ends, and whoever listens by then is told. -/
  | ends (names : List Text) {later : List Notice} (before : h.notified = false)
      (after : h'.notified = true) (informed : Informed h'.status (h.names ++ names) later) :
      Progress h h' (names.map .added ++ later)
  /-- The task has ended long since. -/
  | ended {later : List Notice} (before : h.notified = true) (after : h'.notified = true)
      (same : h'.status = h.status) (informed : Informed h.status [] later) : Progress h h' later

theorem Progress.refl (h : Handle) : Progress h h [] := by
  cases hnotified : h.notified with
  | false => exact .waits [] hnotified hnotified (List.append_nil _).symm
  | true => exact .ended hnotified hnotified rfl .done

/-- As long as nobody is told, listeners gather. -/
theorem Progress.gathered {h h' : Handle} {es : List Notice} (p : Progress h h' es)
    (hwaiting : h'.notified = false) :
    ∃ names : List Text, es = names.map .added ∧ h'.names = h.names ++ names := by
  cases p with
  | waits names _ _ gathered => exact ⟨names, rfl, gathered⟩
  | ends _ _ after => rw [hwaiting] at after; cases after
  | ended _ after => rw [hwaiting] at after; cases after

theorem Progress.trans {h h' h'' : Handle} {es later : List Notice} (p : Progress h h' es)
    (q : Progress h' h'' later) : Progress h h'' (es ++ later) := by
  cases p with
  | waits names before after gathered =>
    cases q with
    | waits more _ after' gathered' =>
      rw [← List.map_append]
      exact .waits _ before after' (by rw [gathered', gathered, List.append_assoc])
    | ends more _ after' informed =>
      -- whoever gathered before is told along with the rest
      rw [gathered, List.append_assoc] at informed
      rw [← List.append_assoc, ← List.map_append]
      exact .ends _ before after' informed
    | ended before' => rw [after] at before'; cases before'
  | ends names before after informed =>
    cases q with
    | waits _ before' => rw [after] at before'; cases before'
    | ends _ before' => rw [after] at before'; cases before'
    | ended _ after' same informed' =>
      -- once the listeners are told, there are only late ones
      rw [List.append_assoc]
      refine .ends names before after' ?_
      rw [same, ← List.append_nil (h.names ++ names)]
      exact informed.append informed'
  | ended before after same informed =>
    cases q with
    | waits _ before' => rw [after] at before'; cases before'
    | ends _ before' => rw [after] at before'; cases before'
    | ended _ after' same' informed' =>
      rw [same] at informed'
      exact .ended before after' (same'.trans same) (informed.append informed')

/-- How a handle may go on. A task that has ended stays as it ended and does not end again, and if
listeners are told as soon as the task has ended they will be so in future. -/
structure Follows (h h' : Handle) (es : List Notice) : Prop where
  progress : Progress h h' es
  lasting : h.state.isDone = true →
    h'.state.isDone = true ∧ h'.status = h.status ∧ h'.notified = h.notified
  settled : h.state.isDone = h.notified → h'.state.isDone = h'.notified

theorem Follows.refl (h : Handle) : Follows h h [] :=
  ⟨.refl h, fun hdone => ⟨hdone, rfl, rfl⟩, id⟩

theorem Follows.trans {h h' h'' : Handle} {es later : List Notice} (p : Follows h h' es)
    (q : Follows h' h'' later) : Follows h h'' (es ++ later) := by
  refine ⟨p.progress.trans q.progress, fun hdone => ?_,
    fun hsettled => q.settled (p.settled hsettled)⟩
  obtain ⟨hdone', hstatus, hnotified⟩ := p.lasting hdone
  obtain ⟨hdone'', hstatus', hnotified'⟩ := q.lasting hdone'
  exact ⟨hdone'', hstatus'.trans hstatus, hnotified'.trans hnotified⟩

/-- The handle with a number goes on, and the journal has the notices of it and no others. -/
def Advance (n : Nat) (w v : World) : Prop :=
  ∀ h, w.handles[n]? = some h → ∃ h' es, v.handles[n]? = some h' ∧
    v.journal.notices = w.journal.notices ++ es ∧ Follows h h' es

instance (n : Nat) : Std.Refl (Advance n) :=
  ⟨fun _ h hn => ⟨h, [], hn, (List.append_nil _).symm, .refl h⟩⟩

instance (n : Nat) : Trans (Advance n) (Advance n) (Advance n) where
  trans := by
    intro w v u p q h hn
    obtain ⟨h', es, hn', hes, hfollows⟩ := p h hn
    obtain ⟨h'', later, hn'', hlater, hfollows'⟩ := q h' hn'
    exact ⟨h'', es ++ later, hn'', by rw [hlater, hes, List.append_assoc], hfollows.trans hfollows'⟩

end CampaignDesk
