import CampaignDesk.World

/-!
# Operations as functions of the world

* `bind_apply`, `attempt_apply`, `ensure_apply`: what an operation does to a world, one equation
  for each way in which operations are put together.
* `Within`: **an operation moves the world along a relation only.** Every way of putting
  operations together keeps this for a relation that is reflexive and transitive, so that it is
  shown of the operations at the leaves alone.
* `Agree`: two operations do the same from all worlds with some property, and keep it.
-/

namespace CampaignDesk.Act

variable {α β : Type}

theorem bind_apply (act : Act α) (next : α → Act β) (w : World) :
    (act >>= next) w = match act w with
      | (.ok a, v) => next a v
      | (.error f, v) => (.error f, v) := by
  change ExceptT.bindCont next (act w).1 (act w).2 = _
  rcases act w with ⟨_ | _, _⟩ <;> rfl

/-- An operation that ends well is followed by the next one. -/
theorem bind_ok {act : Act α} {next : α → Act β} {w v : World} {a : α} (h : act w = (.ok a, v)) :
    (act >>= next) w = next a v := by
  rw [bind_apply, h]

/-- An operation that fails is followed by nothing. -/
theorem bind_error {act : Act α} {next : α → Act β} {w v : World} {f : Failure}
    (h : act w = (.error f, v)) : (act >>= next) w = (.error f, v) := by
  rw [bind_apply, h]

/-- What ends well has done one thing after the other. -/
theorem bind_eq_ok {act : Act α} {next : α → Act β} {w v : World} {b : β} :
    (act >>= next) w = (.ok b, v) ↔ ∃ a u, act w = (.ok a, u) ∧ next a u = (.ok b, v) := by
  rw [bind_apply]
  rcases act w with ⟨f | a, u⟩
  · refine ⟨nofun, ?_⟩
    rintro ⟨_, _, hact, -⟩
    cases hact
  · refine ⟨fun h => ⟨a, u, rfl, h⟩, ?_⟩
    rintro ⟨_, _, hact, h⟩
    cases hact
    exact h

@[simp] theorem pure_apply (a : α) (w : World) : (pure a : Act α) w = (.ok a, w) := rfl

@[simp] theorem throw_apply (f : Failure) (w : World) : (throw f : Act α) w = (.error f, w) := rfl

@[simp] theorem get_apply (w : World) : (get : Act World) w = (.ok w, w) := rfl

@[simp] theorem set_apply (v w : World) : (set v : Act PUnit) w = (.ok ⟨⟩, v) := rfl

@[simp] theorem modify_apply (g : World → World) (w : World) :
    (modify g : Act PUnit) w = (.ok ⟨⟩, g w) := rfl

@[simp] theorem settle_apply (outcome : Except Failure α) (w : World) :
    settle outcome w = (outcome, w) := rfl

@[simp] theorem attempt_apply (act : Act α) (w : World) :
    attempt act w = (.ok (act w).1, (act w).2) := rfl

@[simp] theorem record_apply (e : Entry) (w : World) :
    record e w = (.ok (), { w with journal := w.journal ++ [(w.current, e)] }) := rfl

/-- Whatever comes afterwards sees the world as the operation left it. -/
theorem ensure_apply (act : Act α) (afterwards : Act Unit) (w : World) :
    ensure act afterwards w = match afterwards (act w).2 with
      | (.ok (), v) => ((act w).1, v)
      | (.error f, v) => (.error f, v) := by
  simp only [ensure, bind_apply, attempt_apply]
  rcases afterwards (act w).2 with ⟨_ | _, _⟩ <;> rfl

/-- One list after the other. -/
theorem forM_append_eq_ok {ι : Type} {act : ι → Act PUnit} {l m : List ι} {w v : World} :
    (l ++ m).forM act w = (.ok (), v) ↔
      ∃ u, l.forM act w = (.ok (), u) ∧ m.forM act u = (.ok (), v) := by
  have happend : (l ++ m).forM act = (l.forM act >>= fun _ => m.forM act) := List.forM_append
  rw [happend, bind_eq_ok]
  exact ⟨fun ⟨_, h⟩ => h, fun h => ⟨(), h⟩⟩

/-- What never fails does not fail for a list either. -/
theorem mapM_ok {ι : Type} {act : ι → Act α} (h : ∀ i w, ∃ a, (act i w).1 = .ok a) (l : List ι)
    (w : World) : ∃ as, (l.mapM act w).1 = .ok as := by
  induction l generalizing w with
  | nil => exact ⟨[], rfl⟩
  | cons i l ih =>
    obtain ⟨a, ha⟩ := h i w
    obtain ⟨as, has⟩ := ih (act i w).2
    refine ⟨a :: as, ?_⟩
    rw [List.mapM_cons, bind_ok (Prod.ext ha rfl), bind_ok (Prod.ext has rfl)]
    rfl

/-! ## Relations between the worlds before and after -/

/-- The operation moves every world along `R`. -/
def Within (R : World → World → Prop) (act : Act α) : Prop := ∀ w, R w (act w).2

namespace Within

variable {R : World → World → Prop}

section refl

variable [Std.Refl R]

/-- What leaves the world as it is keeps to every reflexive relation. -/
theorem of_eq {act : Act α} (h : ∀ w, (act w).2 = w) : Within R act :=
  fun w => (h w).symm ▸ Std.Refl.refl w

theorem pure (a : α) : Within R (Pure.pure a : Act α) := of_eq fun _ => rfl

theorem throw (f : Failure) : Within R (MonadExcept.throw f : Act α) := of_eq fun _ => rfl

theorem settle (outcome : Except Failure α) : Within R (Act.settle outcome) := of_eq fun _ => rfl

theorem get : Within R (MonadState.get : Act World) := of_eq fun _ => rfl

end refl

theorem attempt {act : Act α} (h : Within R act) : Within R (Act.attempt act) := h

section trans

variable [Trans R R R]

theorem bind {act : Act α} {next : α → Act β} (h : Within R act) (h' : ∀ a, Within R (next a)) :
    Within R (act >>= next) := by
  intro w
  rw [bind_apply]
  have hw := h w
  rcases hact : act w with ⟨f | a, v⟩ <;> rw [hact] at hw
  · exact hw
  · exact Trans.trans hw (h' a v)

theorem ensure [Std.Refl R] {act : Act α} {afterwards : Act Unit} (h : Within R act)
    (h' : Within R afterwards) : Within R (Act.ensure act afterwards) :=
  h.attempt.bind fun outcome => h'.bind fun _ => settle outcome

theorem forM [Std.Refl R] {ι : Type} {act : ι → Act PUnit} (h : ∀ i, Within R (act i)) (l : List ι) :
    Within R (l.forM act) := by
  induction l with
  | nil => exact pure _
  | cons i l ih => exact (h i).bind fun _ => ih

end trans

end Within

/-! ## Two operations that do the same -/

/-- From the worlds that satisfy `P` two operations do the same. They keep `P` and move along `R`. -/
def Agree (P : World → Prop) (R : World → World → Prop) (act act' : Act α) : Prop :=
  ∀ w, P w → act' w = act w ∧ P (act w).2 ∧ R w (act w).2

namespace Agree

variable {P : World → Prop} {R : World → World → Prop}

theorem of_eq [Std.Refl R] {act : Act α} (h : ∀ w, (act w).2 = w) : Agree P R act act :=
  fun w hw => ⟨rfl, (h w).symm ▸ hw, (h w).symm ▸ Std.Refl.refl w⟩

theorem pure [Std.Refl R] (a : α) : Agree P R (Pure.pure a : Act α) (Pure.pure a) :=
  of_eq fun _ => rfl

theorem throw [Std.Refl R] (f : Failure) :
    Agree P R (MonadExcept.throw f : Act α) (MonadExcept.throw f) := of_eq fun _ => rfl

theorem settle [Std.Refl R] (outcome : Except Failure α) :
    Agree P R (Act.settle outcome) (Act.settle outcome) := of_eq fun _ => rfl

/-- What moves worlds along a relation that keeps `P` and is part of `R` agrees with itself. -/
theorem of_within {S : World → World → Prop} {act : Act α} (h : Within S act)
    (hS : ∀ w v, S w v → P w → P v ∧ R w v) : Agree P R act act :=
  fun w hw => ⟨rfl, hS w _ (h w) hw⟩

/-- What agrees from all worlds moves all worlds along `R`. -/
theorem within {act act' : Act α} (h : Agree (fun _ => True) R act act') : Within R act :=
  fun w => (h w trivial).2.2

theorem attempt {act act' : Act α} (h : Agree P R act act') :
    Agree P R (Act.attempt act) (Act.attempt act') := by
  intro w hw
  obtain ⟨heq, hP, hR⟩ := h w hw
  exact ⟨by rw [attempt_apply, attempt_apply, heq], hP, hR⟩

/-- A check before and after that never fails where `P` holds makes no difference. -/
theorem checked {act act' : Act α} {check : Act Unit} (hcheck : ∀ w, P w → check w = (.ok (), w))
    (h : Agree P R act act') :
    Agree P R act (do
      check
      let outcome ← Act.attempt act'
      check
      Act.settle outcome) := by
  intro w hw
  obtain ⟨heq, hP, hR⟩ := h w hw
  refine ⟨?_, hP, hR⟩
  rw [bind_ok (hcheck w hw), bind_apply, attempt_apply, heq]
  simp only
  rw [bind_ok (hcheck _ hP)]
  rfl

section trans

variable [Trans R R R]

theorem bind {act act' : Act α} {next next' : α → Act β} (h : Agree P R act act')
    (h' : ∀ a, Agree P R (next a) (next' a)) : Agree P R (act >>= next) (act' >>= next') := by
  intro w hw
  obtain ⟨heq, hP, hR⟩ := h w hw
  rw [bind_apply, bind_apply, heq]
  rcases hact : act w with ⟨f | a, v⟩ <;> rw [hact] at hP hR
  · exact ⟨rfl, hP, hR⟩
  · obtain ⟨heq', hP', hR'⟩ := h' a v hP
    exact ⟨heq', hP', Trans.trans hR hR'⟩

theorem forM [Std.Refl R] {ι : Type} {act act' : ι → Act PUnit} {l : List ι}
    (h : ∀ i ∈ l, Agree P R (act i) (act' i)) : Agree P R (l.forM act) (l.forM act') := by
  induction l with
  | nil => exact pure _
  | cons i l ih =>
    exact (h i List.mem_cons_self).bind fun _ => ih fun j hj => h j (List.mem_cons_of_mem i hj)

theorem mapM [Std.Refl R] {ι : Type} {act act' : ι → Act α} {l : List ι}
    (h : ∀ i ∈ l, Agree P R (act i) (act' i)) : Agree P R (l.mapM act) (l.mapM act') := by
  induction l with
  | nil => exact pure _
  | cons i l ih =>
    rw [List.mapM_cons, List.mapM_cons]
    exact (h i List.mem_cons_self).bind fun _ =>
      (ih fun j hj => h j (List.mem_cons_of_mem i hj)).bind fun _ => pure _

end trans

end Agree

end CampaignDesk.Act
