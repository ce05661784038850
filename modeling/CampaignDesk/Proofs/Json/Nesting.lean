import CampaignDesk.Json.Printer

/-!
# Levels of nesting

* `Value.depth`: how many containers stand inside each other in a value.
* `obstacle?_eq_none`: **a value can be written exactly if every number in it can and there is room for its
  levels.**
* `depth_le_length_write`: a level takes at least one code point.
-/

namespace CampaignDesk

namespace Value

mutual

/-- How many containers stand inside each other. -/
def depth : Value → Nat
  | .list items => depthItems items + 1
  | .tuple items => depthItems items + 1
  | .dict entries => depthEntries entries + 1
  | _ => 0
termination_by structural v => v

/-- How many stand inside each other in an element of a sequence. -/
def depthItems : List Value → Nat
  | [] => 0
  | x :: xs => max (depth x) (depthItems xs)
termination_by structural xs => xs

/-- How many stand inside each other in an entry of a dictionary. -/
def depthEntries : Entries → Nat
  | [] => 0
  | (_, v) :: es => max (depth v) (depthEntries es)
termination_by structural es => es

end

end Value

namespace Json

/-! ## What can be written -/

mutual

/-- **A value can be written exactly if every number in it can and there is room for its levels.** -/
theorem obstacle?_eq_none (room : Nat) :
    (v : Value) → (obstacle? room v = none ↔ v.isShowable = true ∧ v.depth ≤ room)
  | .int n => by simp [obstacle?, Value.isShowable, Value.depth]
  | .list items | .tuple items => by
    cases room with
    | zero => simp [obstacle?, Value.depth]
    | succ room =>
      rw [obstacle?, Value.isShowable, Value.depth, Nat.succ_le_succ_iff]
      exact itemsObstacle?_eq_none room items
  | .dict entries => by
    cases room with
    | zero => simp [obstacle?, Value.depth]
    | succ room =>
      rw [obstacle?, Value.isShowable, Value.depth, Nat.succ_le_succ_iff]
      exact entriesObstacle?_eq_none room entries
  | .null | .bool _ | .float _ | .text _ => by simp [obstacle?, Value.isShowable, Value.depth]

theorem itemsObstacle?_eq_none (room : Nat) : (items : List Value) →
    (itemsObstacle? room items = none ↔ Value.areShowable items = true ∧ Value.depthItems items ≤ room)
  | [] => by simp [itemsObstacle?, Value.areShowable, Value.depthItems]
  | x :: xs => by
    rw [itemsObstacle?, Option.or_eq_none_iff, obstacle?_eq_none room x, itemsObstacle?_eq_none room xs,
      Value.areShowable, Value.depthItems, Bool.and_eq_true, Nat.max_le]
    exact and_and_and_comm

theorem entriesObstacle?_eq_none (room : Nat) : (entries : Entries) →
    (entriesObstacle? room entries = none ↔
      Value.areShowableEntries entries = true ∧ Value.depthEntries entries ≤ room)
  | [] => by simp [entriesObstacle?, Value.areShowableEntries, Value.depthEntries]
  | (k, x) :: es => by
    rw [entriesObstacle?, Value.areShowableEntries, Value.depthEntries, Bool.and_eq_true, Bool.and_eq_true,
      Nat.max_le, and_and_and_comm, and_assoc]
    by_cases hk : k.isShowable = true
    · rw [if_pos hk, Option.or_eq_none_iff, obstacle?_eq_none room x, entriesObstacle?_eq_none room es]
      simp only [hk, true_and]
      exact and_assoc
    · simp [hk]

end

variable {room : Nat} {l : Layout} {v : Value} {t : Text}

theorem itemsObstacle?_of_forall {items : List Value} (h : ∀ v ∈ items, obstacle? room v = none) :
    itemsObstacle? room items = none := by
  induction items with
  | nil => rfl
  | cons x xs ih =>
    obtain ⟨hx, hxs⟩ := List.forall_mem_cons.1 h
    rw [itemsObstacle?, hx, ih hxs]
    rfl

theorem entriesObstacle?_of_forall {entries : Entries}
    (h : ∀ e ∈ entries, e.1.isShowable = true ∧ obstacle? room e.2 = none) :
    entriesObstacle? room entries = none := by
  induction entries with
  | nil => rfl
  | cons x xs ih =>
    obtain ⟨⟨hkey, hx⟩, hxs⟩ := List.forall_mem_cons.1 h
    rw [entriesObstacle?, if_pos hkey, hx, ih hxs]
    rfl

/-- A value that can be written is composed, and no other. -/
theorem compose?_eq_ok :
    compose? room l v = .ok t ↔ (v.isShowable = true ∧ v.depth ≤ room) ∧ t = write l 0 v := by
  rw [← obstacle?_eq_none, compose?]
  rcases obstacle? room v with _ | f
  · simp [eq_comm]
  · simp

/-! ## Levels take code points -/

/-- Parts put together are as long as each of them at least. -/
theorem length_le_length_join (separator : Text) {parts : List Text} :
    ∀ part ∈ parts, part.length ≤ (Text.join separator parts).length := by
  induction parts with
  | nil => exact List.forall_mem_nil _
  | cons x xs ih =>
    cases xs with
    | nil => exact List.forall_mem_singleton.2 (Nat.le_refl _)
    | cons y ys =>
      have hlength : (Text.join separator (x :: y :: ys)).length =
          x.length + separator.length + (Text.join separator (y :: ys)).length := by
        simp [Text.join, Nat.add_assoc]
      rw [hlength]
      exact List.forall_mem_cons.2 ⟨by omega, fun part hpart => Nat.le_trans (ih part hpart) (by omega)⟩

/-- Brackets are longer than any of the parts between them, and never empty. -/
theorem lt_length_bracketed {level n : Nat} {opening closing : CodePoint} {parts : List Text}
    (h : n = 0 ∨ ∃ part ∈ parts, n ≤ part.length) :
    n < (bracketed l level opening closing parts).length := by
  rw [bracketed]
  rcases h with rfl | ⟨part, hpart, hn⟩
  · split <;> simp
  · have hjoin := length_le_length_join (l.separator (level + 1)) part hpart
    rw [if_neg (by simpa using List.ne_nil_of_mem hpart)]
    simp only [List.length_append, List.length_singleton]
    omega

mutual

/-- **A value is written with no fewer code points than it has levels.** -/
theorem depth_le_length_write (l : Layout) (level : Nat) :
    (v : Value) → v.depth ≤ (write l level v).length
  | .list items | .tuple items => lt_length_bracketed (depthItems_le_part l (level + 1) items)
  | .dict entries => lt_length_bracketed (depthEntries_le_part l (level + 1) entries)
  | .null | .bool _ | .int _ | .float _ | .text _ => Nat.zero_le _

/-- The element with the most levels is written with no fewer code points. -/
theorem depthItems_le_part (l : Layout) (level : Nat) : (items : List Value) →
    Value.depthItems items = 0 ∨ ∃ part ∈ writeItems l level items, Value.depthItems items ≤ part.length
  | [] => .inl rfl
  | x :: xs => by
    rw [Value.depthItems, writeItems]
    rcases Nat.le_total (Value.depthItems xs) x.depth with hle | hle
    · rw [Nat.max_eq_left hle]
      exact .inr ⟨_, List.mem_cons_self, depth_le_length_write l level x⟩
    · rw [Nat.max_eq_right hle]
      exact (depthItems_le_part l level xs).imp_right fun ⟨part, hpart, hn⟩ =>
        ⟨part, List.mem_cons_of_mem _ hpart, hn⟩

theorem depthEntries_le_part (l : Layout) (level : Nat) : (entries : Entries) →
    Value.depthEntries entries = 0 ∨
      ∃ part ∈ writeEntries l level entries, Value.depthEntries entries ≤ part.length
  | [] => .inl rfl
  | (k, x) :: es => by
    rw [Value.depthEntries, writeEntries]
    rcases Nat.le_total (Value.depthEntries es) x.depth with hle | hle
    · rw [Nat.max_eq_left hle]
      refine .inr ⟨_, List.mem_cons_self, Nat.le_trans (depth_le_length_write l level x) ?_⟩
      rw [List.length_append]
      exact Nat.le_add_left _ _
    · rw [Nat.max_eq_right hle]
      exact (depthEntries_le_part l level es).imp_right fun ⟨part, hpart, hn⟩ =>
        ⟨part, List.mem_cons_of_mem _ hpart, hn⟩

end

end Json

end CampaignDesk
