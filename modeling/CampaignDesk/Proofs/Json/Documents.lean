import CampaignDesk.Proofs.Json.RoundTrip

/-!
# What documents hold

* `Exact`: a value that is built without floating point numbers, and without texts that have a pair in
  them.
* `entriesOf_sound`: the entries of an object have distinct keys.
* `Sound`: a value that can be written with the room that its reader had, and is portable if it is exact.
  `reads`: **whatever the reader makes of a text is sound**, by induction on the work that it has left.
* `portable_iff`: **the portable values are the exact ones that some document holds.**
* `writable_of_parseWithin?`: **what is read can be written.**
-/

namespace CampaignDesk.Json

/-- A value without floating point numbers, and without texts in which two neighbours would be read as one
code point. -/
inductive Exact : Value → Prop
  | null : Exact .null
  | bool (b : Bool) : Exact (.bool b)
  | int (n : Int) : Exact (.int n)
  | text {t : Text} (unpaired : Unpaired t) : Exact (.text t)
  | list {items : List Value} (elements : ∀ v ∈ items, Exact v) : Exact (.list items)
  | dict {entries : Entries} (keys : ∀ e ∈ entries, ∃ k, e.1 = .text k ∧ Unpaired k)
      (values : ∀ e ∈ entries, Exact e.2) : Exact (.dict entries)

theorem Portable.exact {v : Value} (h : Portable v) : Exact v := by
  induction h with
  | null => exact .null
  | bool b => exact .bool b
  | int digits => exact .int _
  | text unpaired => exact .text unpaired
  | list elements ih => exact .list ih
  | dict keys distinct values ih => exact .dict keys ih

/-! ## Numbers -/

/-- Digits stand for a number with no more of them. -/
theorem digitsValue_lt {digits : Text} (h : ∀ c ∈ digits, c.isDigit = true) :
    digitsValue digits < Nat.pow 10 digits.length := by
  -- with a number in front of them already
  have hvalue (n : Nat) : digits.foldl (fun n c => 10 * n + (c.val - 0x30)) n <
      (n + 1) * Nat.pow 10 digits.length := by
    induction digits generalizing n with
    | nil => simp
    | cons c rest ih =>
      have hc : c.val - 0x30 ≤ 9 := by
        have hdigit := h c List.mem_cons_self
        simp only [CodePoint.isDigit, Bool.and_eq_true, decide_eq_true_eq] at hdigit
        omega
      have hrest := ih (fun d hd => h d (List.mem_cons_of_mem c hd)) (10 * n + (c.val - 0x30))
      have hbound : (10 * n + (c.val - 0x30) + 1) * Nat.pow 10 rest.length ≤
          (10 * (n + 1)) * Nat.pow 10 rest.length := Nat.mul_le_mul_right _ (by omega)
      have hpower : (n + 1) * Nat.pow 10 (rest.length + 1) = (10 * (n + 1)) * Nat.pow 10 rest.length := by
        change (n + 1) * (Nat.pow 10 rest.length * 10) = _
        rw [Nat.mul_comm (Nat.pow _ _) 10, ← Nat.mul_assoc, Nat.mul_comm (n + 1) 10]
      rw [List.foldl_cons, List.length_cons, hpower]
      omega
  simpa [digitsValue] using hvalue 0

theorem length_ofNat_digitsValue {digits : Text} (hne : digits ≠ [])
    (h : ∀ c ∈ digits, c.isDigit = true) :
    (Text.ofNat (digitsValue digits)).length ≤ digits.length := by
  rw [Text.ofNat, List.length_map]
  exact (Nat.length_toDigits_le_iff (by decide) (List.length_pos_iff.2 hne)).2 (digitsValue_lt h)

theorem isDigit_of_mem_integerDigits {t : Text} : ∀ c ∈ (integerDigits t).1, c.isDigit = true := by
  unfold integerDigits
  split
  · exact List.forall_mem_singleton.2 rfl
  · exact List.all_eq_true.1 List.all_takeWhile

/-- An integer that is not too long can be written. -/
theorem isShowableInt_of_digits {n : Int} (h : (Text.ofNat n.natAbs).length ≤ maxDigits) :
    isShowableInt n = true := by
  have hlimit : Text.maxDigits = maxDigits := rfl
  have hpositive : 0 < maxDigits := by decide
  rw [Text.ofNat, List.length_map, Nat.length_toDigits_le_iff (by decide) hpositive, ← Nat.pow_eq,
    ← hlimit] at h
  rw [isShowableInt]
  generalize Nat.pow 10 Text.maxDigits = limit at h ⊢
  exact decide_eq_true h

variable {negative : Bool} {room fuel : Nat} {t rest : Text} {v : Value}

/-- A value can be written with so much room, and is portable if it is exact. -/
structure Sound (room : Nat) (v : Value) : Prop where
  writable : obstacle? room v = none
  portable : Exact v → Portable v

/-- A portable value without levels is sound whatever the room. -/
theorem Sound.of_int {n : Int} (h : (Text.ofNat n.natAbs).length ≤ maxDigits) (room : Nat) :
    Sound room (.int n) :=
  ⟨by rw [obstacle?, if_pos (isShowableInt_of_digits h)], fun _ => .int h⟩

/-- A floating point number is never exact. -/
theorem Sound.of_float (x : Binary64) (room : Nat) : Sound room (.float x) := ⟨rfl, nofun⟩

/-- An integer is read only if it is not too long; every other number is a floating point number. -/
theorem unsignedNumber_sound (h : unsignedNumber negative t = .ok (v, rest)) (room : Nat) :
    Sound room v := by
  have hdigits := @isDigit_of_mem_integerDigits t
  unfold unsignedNumber at h
  dsimp only at h
  split at h
  · cases h
  next hsome =>
  split at h
  · split at h
    · cases h
    next hshort =>
    cases h
    have hne : (integerDigits t).1 ≠ [] := by simpa using hsome
    have hlength := length_ofNat_digitsValue hne hdigits
    refine .of_int (le_trans (le_of_eq ?_) (hlength.trans (Nat.not_lt.1 hshort))) room
    cases negative <;> simp
  · cases h
    exact .of_float _ room

theorem wordOrNumber_sound (h : wordOrNumber t = .ok (v, rest)) (room : Nat) : Sound room v := by
  unfold wordOrNumber at h
  split at h
  · next result hword =>
    cases h
    obtain ⟨⟨word, w⟩, hmem, hw⟩ := List.exists_of_findSome?_eq_some hword
    obtain ⟨after, -, hafter⟩ := Option.map_eq_some_iff.1 hw
    cases hafter
    have hall : ∀ p ∈ words, Sound room p.2 := by
      simp only [words, List.forall_mem_cons]
      exact ⟨⟨rfl, fun _ => .null⟩, ⟨rfl, fun _ => .bool true⟩, ⟨rfl, fun _ => .bool false⟩,
        .of_float _ room, .of_float _ room, .of_float _ room, List.forall_mem_nil _⟩
    exact hall _ hmem
  · split at h
    · exact unsignedNumber_sound h room
    · exact unsignedNumber_sound h room

/-! ## Objects -/

/-- A text key that is there keeps its place, and a new one comes last. -/
theorem insert_keys {entries : Entries} (hkeys : ∀ e ∈ entries, ∃ k, e.1 = .text k) (k : Text)
    (v : Value) :
    (.text k ∈ entries.map Prod.fst ∧
      (Value.insert entries (.text k) v).map Prod.fst = entries.map Prod.fst) ∨
    (.text k ∉ entries.map Prod.fst ∧
      (Value.insert entries (.text k) v).map Prod.fst = entries.map Prod.fst ++ [.text k]) := by
  by_cases hk : Key.text k ∈ entries.map Prod.fst
  · refine .inl ⟨hk, ?_⟩
    induction entries with
    | nil => cases hk
    | cons first entries ih =>
      obtain ⟨l, w⟩ := first
      obtain ⟨j, rfl⟩ := hkeys (l, w) List.mem_cons_self
      have hsame : (Key.text j).same (.text k) = decide (j = k) := by simp [Key.same, Key.number?]
      rw [Value.insert, hsame]
      by_cases hj : j = k
      · rw [if_pos (decide_eq_true hj)]
        rfl
      · have hrest : Key.text k ∈ entries.map Prod.fst := by simpa [Ne.symm hj] using hk
        rw [if_neg (by simpa using hj), List.map_cons, List.map_cons,
          ih (fun e he => hkeys e (List.mem_cons_of_mem _ he)) hrest]
  · refine .inr ⟨hk, ?_⟩
    rw [insert_new hkeys hk, List.map_append]
    rfl

theorem mem_insert {entries : Entries} {k : Key} {e : Key × Value}
    (h : e ∈ Value.insert entries k v) : e ∈ entries ∨ e.2 = v := by
  induction entries with
  | nil => exact .inr (congrArg Prod.snd (List.mem_singleton.1 h))
  | cons first entries ih =>
    obtain ⟨l, w⟩ := first
    rw [Value.insert] at h
    split at h
    · rcases List.mem_cons.1 h with rfl | h
      · exact .inr rfl
      · exact .inl (List.mem_cons_of_mem _ h)
    · rcases List.mem_cons.1 h with rfl | h
      · exact .inl List.mem_cons_self
      · exact (ih h).imp_left (List.mem_cons_of_mem _)

/-- The entries of an object have distinct text keys, and values that were given. -/
theorem entriesOf_sound {assignments : Entries} (hkeys : ∀ e ∈ assignments, ∃ k, e.1 = .text k) :
    ((Value.entriesOf assignments).map Prod.fst).Nodup ∧
      ∀ e ∈ Value.entriesOf assignments, (∃ k, e.1 = .text k) ∧ ∃ a ∈ assignments, e.2 = a.2 := by
  -- with the entries taken so far
  have hfold (before : Entries) (hbefore : ∀ e ∈ before, ∃ k, e.1 = .text k)
      (hnodup : (before.map Prod.fst).Nodup) :
      let after := assignments.foldl (fun entries a => Value.insert entries a.1 a.2) before
      (after.map Prod.fst).Nodup ∧
        ∀ e ∈ after, (∃ k, e.1 = .text k) ∧ (e ∈ before ∨ ∃ a ∈ assignments, e.2 = a.2) := by
    induction assignments generalizing before with
    | nil => exact ⟨hnodup, fun e he => ⟨hbefore e he, .inl he⟩⟩
    | cons a rest ih =>
      obtain ⟨k, hk⟩ := hkeys a List.mem_cons_self
      have hinsert := insert_keys hbefore k a.2
      rw [← hk] at hinsert
      have htexts : ∀ l ∈ (Value.insert before a.1 a.2).map Prod.fst, ∃ k, l = .text k := by
        have hall : ∀ l ∈ before.map Prod.fst, ∃ k, l = .text k := List.forall_mem_map.2 hbefore
        rcases hinsert with ⟨-, hkept⟩ | ⟨-, hnew⟩
        · rwa [hkept]
        · rw [hnew]
          exact List.forall_mem_append.2 ⟨hall, List.forall_mem_singleton.2 ⟨k, hk⟩⟩
      have hdistinct : ((Value.insert before a.1 a.2).map Prod.fst).Nodup := by
        rcases hinsert with ⟨-, hkept⟩ | ⟨hnew, hlast⟩
        · rwa [hkept]
        · rw [hlast]
          exact List.nodup_append.2 ⟨hnodup, by simp, by
            rintro l hl _ hlast rfl
            rw [List.mem_singleton.1 hlast] at hl
            exact hnew hl⟩
      obtain ⟨hafter, hvalues⟩ := ih (fun e he => hkeys e (List.mem_cons_of_mem a he)) _
        (fun e he => htexts e.1 (List.mem_map_of_mem he)) hdistinct
      refine ⟨hafter, fun e he => ⟨(hvalues e he).1, ?_⟩⟩
      rcases (hvalues e he).2 with hbefore | ⟨b, hb, hvalue⟩
      · rcases mem_insert hbefore with hold | hvalue
        · exact .inl hold
        · exact .inr ⟨a, List.mem_cons_self, hvalue⟩
      · exact .inr ⟨b, List.mem_cons_of_mem a hb, hvalue⟩
  obtain ⟨hnodup, hvalues⟩ := hfold [] (List.forall_mem_nil _) List.nodup_nil
  exact ⟨hnodup, fun e he => ⟨(hvalues e he).1, (hvalues e he).2.resolve_left (List.not_mem_nil)⟩⟩

/-! ## The reader -/

/-- A chain that has a value has one in its first link. -/
theorem bind_eq_ok {ε α β : Type} {x : Except ε α} {next : α → Except ε β} {b : β}
    (h : x >>= next = .ok b) : ∃ a, x = .ok a ∧ next a = .ok b := by
  cases x with
  | error e => cases h
  | ok a => exact ⟨a, rfl, h⟩

/-- Whatever the reader makes of a text with some work left is sound for the room that it had. -/
structure Reads (fuel : Nat) : Prop where
  value : ∀ {room t v rest}, value room fuel t = .ok (v, rest) → Sound room v
  items : ∀ {room t vs rest}, items room fuel t = .ok (vs, rest) → ∀ v ∈ vs, Sound room v
  members : ∀ {room t es rest}, members room fuel t = .ok (es, rest) →
    ∀ e ∈ es, (∃ k, e.1 = .text k) ∧ Sound room e.2

theorem enter_eq_ok {container : Container} {room inner : Nat} (h : enter container room = .ok inner) :
    room = inner + 1 := by
  cases room with
  | zero => cases h
  | succ room =>
    cases h
    rfl

/-- An array of sound elements is sound with one level more room. -/
theorem Sound.list {vs : List Value} (h : ∀ v ∈ vs, Sound room v) : Sound (room + 1) (.list vs) := by
  refine ⟨itemsObstacle?_of_forall fun v hv => (h v hv).writable, ?_⟩
  rintro (_ | _ | _ | _ | elements)
  exact .list fun v hv => (h v hv).portable (elements v hv)

/-- An object of sound members is sound with one level more room. -/
theorem Sound.dict {es : Entries} (h : ∀ e ∈ es, (∃ k, e.1 = .text k) ∧ Sound room e.2) :
    Sound (room + 1) (.dict (Value.entriesOf es)) := by
  obtain ⟨hdistinct, hgiven⟩ := entriesOf_sound fun e he => (h e he).1
  have hsound : ∀ e ∈ Value.entriesOf es, Sound room e.2 := by
    intro e he
    obtain ⟨a, ha, hvalue⟩ := (hgiven e he).2
    rw [hvalue]
    exact (h a ha).2
  refine ⟨entriesObstacle?_of_forall fun e he => ⟨?_, (hsound e he).writable⟩, ?_⟩
  · obtain ⟨k, hk⟩ := (hgiven e he).1
    rw [hk]
    rfl
  · rintro (_ | _ | _ | _ | _ | ⟨keys, values⟩)
    exact .dict keys hdistinct fun e he => (hsound e he).portable (values e he)

theorem value_sound (ih : Reads fuel) (h : value room (fuel + 1) t = .ok (v, rest)) : Sound room v := by
  cases t with
  | nil => cases h
  | cons c after =>
    rw [value] at h
    split at h
    · obtain ⟨⟨s, left⟩, -, h⟩ := bind_eq_ok h
      cases h
      refine ⟨rfl, ?_⟩
      rintro (_ | _ | _ | unpaired)
      exact .text unpaired
    split at h
    · obtain ⟨inner, henter, hinside⟩ := bind_eq_ok h
      obtain rfl := enter_eq_ok henter
      split at hinside
      · cases hinside
        exact .list (List.forall_mem_nil _)
      · obtain ⟨⟨vs, left⟩, hitems, hwhole⟩ := bind_eq_ok hinside
        cases hwhole
        exact .list (ih.items hitems)
    split at h
    · obtain ⟨inner, henter, hinside⟩ := bind_eq_ok h
      obtain rfl := enter_eq_ok henter
      split at hinside
      · cases hinside
        have hnone : Sound (inner + 1) (.dict (Value.entriesOf [])) := .dict (List.forall_mem_nil _)
        exact hnone
      · obtain ⟨⟨es, left⟩, hmembers, hwhole⟩ := bind_eq_ok hinside
        cases hwhole
        exact .dict (ih.members hmembers)
    · exact wordOrNumber_sound h room

theorem items_sound (ih : Reads fuel) {vs : List Value} (h : items room (fuel + 1) t = .ok (vs, rest)) :
    ∀ v ∈ vs, Sound room v := by
  rw [items] at h
  obtain ⟨⟨v, left⟩, hvalue, h⟩ := bind_eq_ok h
  dsimp only at h
  have hfirst : Sound room v := ih.value hvalue
  split at h
  · cases h
    exact List.forall_mem_singleton.2 hfirst
  · obtain ⟨⟨more, left⟩, hitems, h⟩ := bind_eq_ok h
    cases h
    exact List.forall_mem_cons.2 ⟨hfirst, ih.items hitems⟩
  · cases h

theorem members_sound (ih : Reads fuel) {es : Entries} (h : members room (fuel + 1) t = .ok (es, rest)) :
    ∀ e ∈ es, (∃ k, e.1 = .text k) ∧ Sound room e.2 := by
  unfold members at h
  split at h
  · obtain ⟨⟨k, left⟩, -, h⟩ := bind_eq_ok h
    dsimp only at h
    split at h
    · obtain ⟨⟨v, left⟩, hvalue, h⟩ := bind_eq_ok h
      dsimp only at h
      have hfirst : (∃ l, Key.text k = .text l) ∧ Sound room v := ⟨⟨k, rfl⟩, ih.value hvalue⟩
      split at h
      · cases h
        exact List.forall_mem_singleton.2 hfirst
      · obtain ⟨⟨more, left⟩, hmembers, h⟩ := bind_eq_ok h
        cases h
        exact List.forall_mem_cons.2 ⟨hfirst, ih.members hmembers⟩
      · cases h
    · cases h
  · cases h

/-- **Whatever the reader makes of a text is sound.** -/
theorem reads (fuel : Nat) : Reads fuel := by
  induction fuel with
  | zero => exact ⟨nofun, nofun, nofun⟩
  | succ fuel ih => exact ⟨value_sound ih, items_sound ih, members_sound ih⟩

theorem document_sound (h : document room t = .ok v) : Sound room v := by
  unfold document at h
  split at h
  · cases h
  obtain ⟨⟨w, rest⟩, hvalue, h⟩ := bind_eq_ok h
  dsimp only at h
  split at h <;> cases h
  exact (reads _).value hvalue

/-- **The portable values are the exact ones that some document holds.** -/
theorem portable_iff {v : Value} : Portable v ↔ Exact v ∧ ∃ t, parse? t = .ok v := by
  refine ⟨fun h => ⟨h.exact, _, parse?_compact h⟩, ?_⟩
  rintro ⟨hv, t, h⟩
  unfold parse? read readWithin at h
  rcases hdocument : document t.length t with stop | w <;> rw [hdocument] at h <;> cases h
  exact (document_sound hdocument).portable hv

/-- **What is read can be written**, with the room that was enough for reading it. -/
theorem writable_of_parseWithin? (h : parseWithin? room t = .ok v) : obstacle? room v = none := by
  unfold parseWithin? readWithin at h
  rcases hdocument : document room t with stop | w <;> rw [hdocument] at h <;> cases h
  exact (document_sound hdocument).writable

/-- **A portable value can be written** where there is room for its levels. -/
theorem Portable.compose? (h : Portable v) (hroom : v.depth ≤ room) (l : Layout) :
    compose? room l v = .ok (write l 0 v) := by
  obtain ⟨-, t, hread⟩ := portable_iff.1 h
  exact compose?_eq_ok.2 ⟨⟨(obstacle?_eq_none _ v).1 (writable_of_parseWithin? hread) |>.1, hroom⟩, rfl⟩

end CampaignDesk.Json
