import CampaignDesk.Proofs.Form.Payload

/-!
# Forms and their payloads

A payload gives a field the first value that is something, under its payload key or else under its name;
null is nothing. The form of a payload is settled field by field from that alone.

* `Form.Gives`: what a payload gives a field, read off its entries. `given?_eq_some`: **that is what the form
  is made from.**
* `Form.ListedAs`: what a value lists as attachments; a single text is one path.
* `Form.Describes`, `ofPayload?_eq_ok`, `ofPayload?_eq_error`: **which form a payload describes**, and when
  it describes none.
* `Form.renamed`, `ofPayload?_renamed`: names may be renamed to payload keys that are free.
* `Form.Returns`, `ofPayload?_toPayload_self`: **which forms come back from their payload.**
* `Form.PayloadLaws`, `payloads_and_forms_agree`: all of it together.
-/

namespace CampaignDesk

/-! ## Entries -/

namespace Value

variable {entries : Entries} {name : Text} {v : Value}

/-- The entries of a dictionary have distinct keys. -/
def Distinct (entries : Entries) : Prop := (entries.map Prod.fst).Nodup

instance (entries : Entries) : Decidable (Distinct entries) := List.nodupDecidable _

theorem mem_of_lookup? (h : lookup? name entries = some v) : (.text name, v) ∈ entries := by
  induction entries with
  | nil => cases h
  | cons e rest ih =>
    obtain ⟨k, u⟩ := e
    unfold lookup? at h
    split at h
    · rename_i hk
      cases h
      rw [hk]
      exact List.mem_cons_self
    · exact List.mem_cons_of_mem _ (ih h)

/-- **What is found under a key is what stands there**, if keys are distinct. -/
theorem lookup?_eq_some (hd : Distinct entries) :
    lookup? name entries = some v ↔ (.text name, v) ∈ entries := by
  refine ⟨mem_of_lookup?, fun h => ?_⟩
  induction entries with
  | nil => cases h
  | cons e rest ih =>
    obtain ⟨k, u⟩ := e
    obtain ⟨hnew, hrest⟩ := List.nodup_cons.1 hd
    rcases List.mem_cons.1 h with heq | hmem
    · cases heq
      rw [lookup?, if_pos rfl]
    · have hk : k ≠ .text name := fun hk => hnew (hk ▸ List.mem_map.2 ⟨_, hmem, rfl⟩)
      rw [lookup?, if_neg hk]
      exact ih hrest hmem

/-- A key that is given a value is put at the end, unless it is there. -/
theorem map_fst_insert (entries : Entries) (key : Text) (v : Value) :
    (insert entries (.text key) v).map Prod.fst =
      if .text key ∈ entries.map Prod.fst then entries.map Prod.fst
      else entries.map Prod.fst ++ [.text key] := by
  induction entries with
  | nil => rfl
  | cons e rest ih =>
    obtain ⟨k, u⟩ := e
    by_cases hk : k = .text key
    · rw [insert, if_pos ((Key.same_text k key).2 hk), List.map_cons, hk]
      exact (if_pos List.mem_cons_self).symm
    · rw [insert, if_neg fun h => hk ((Key.same_text k key).1 h), List.map_cons, ih, List.map_cons]
      by_cases hmem : .text key ∈ rest.map Prod.fst
      · rw [if_pos hmem, if_pos (List.mem_cons_of_mem _ hmem)]
      · rw [if_neg hmem, if_neg fun h => (List.mem_cons.1 h).elim (fun h => hk h.symm) hmem,
          List.cons_append]

theorem Distinct.insert (h : Distinct entries) (key : Text) (v : Value) :
    Distinct (insert entries (.text key) v) := by
  unfold Distinct at h ⊢
  rw [map_fst_insert]
  split
  · exact h
  · rename_i hnew
    refine List.nodup_append.2 ⟨h, List.pairwise_singleton _ _, fun k hk l hl => ?_⟩
    rw [List.mem_singleton.1 hl]
    rintro rfl
    exact hnew hk

/-- The entries without a key. -/
def erase (entries : Entries) (name : Text) : Entries := entries.filter fun e => e.1 ≠ .text name

theorem lookup?_erase (entries : Entries) (key name : Text) :
    lookup? name (erase entries key) = if key = name then none else lookup? name entries := by
  induction entries with
  | nil => simp [erase, lookup?]
  | cons e rest ih =>
    obtain ⟨k, u⟩ := e
    unfold erase at ih ⊢
    by_cases hk : k = .text key
    · rw [List.filter_cons_of_neg (by simpa using hk), ih, lookup?, hk]
      by_cases hname : key = name
      · rw [if_pos hname, if_pos hname]
      · rw [if_neg hname, if_neg hname, if_neg fun h => hname (Key.text.inj h)]
    · rw [List.filter_cons_of_pos (by simpa using hk), lookup?, lookup?, ih]
      by_cases hname : k = .text name
      · have hother : key ≠ name := fun h => hk (h ▸ hname)
        rw [if_pos hname, if_pos hname, if_neg hother]
      · rw [if_neg hname, if_neg hname]

theorem same_null : v.same .null = true ↔ v = .null := by
  cases v <;> simp [same, number?, isNull]

/-- Only a list equals a list. -/
theorem list_of_same {items : List Value} (h : same (.list items) v = true) :
    ∃ others, v = .list others := by
  cases v with
  | list others => exact ⟨others, rfl⟩
  | _ => cases h

end Value

namespace Form

open Value (Distinct)

variable {payload other : Entries} {f : Field} {v : Value} {form : Form}

/-! ## What a payload gives a field -/

/-- The payload gives the field this value: it stands under the payload key of the field, or under its
name if nothing but null stands under that key. -/
inductive Gives (payload : Entries) (f : Field) (v : Value) : Prop
  | key (hv : v ≠ .null) (h : (.ofString f.payloadKey, v) ∈ payload) : Gives payload f v
  | name (hv : v ≠ .null) (hkey : ∀ u, (.ofString f.payloadKey, u) ∈ payload → u = .null)
    (h : (.ofString f.name, v) ∈ payload) : Gives payload f v

/-- What a payload holds under a key, unless it is null. -/
def present? (payload : Entries) (key : String) : Option Value :=
  match Value.lookup? (Text.ofString key) payload with
  | some .null | none => none
  | some v => some v

theorem given?_eq (payload : Entries) (f : Field) :
    given? payload f = (present? payload f.payloadKey).or (present? payload f.name) := rfl

theorem present?_eq_some {key : String} (hd : Distinct payload) :
    present? payload key = some v ↔ v ≠ .null ∧ (.ofString key, v) ∈ payload := by
  unfold present?
  rw [← Value.lookup?_eq_some hd]
  split
  · rename_i hnull
    simp only [hnull, reduceCtorEq, Option.some.injEq, false_iff, not_and]
    exact fun hv heq => hv heq.symm
  · rename_i hnone
    simp [hnone]
  · rename_i u hne hsome
    rw [hsome]
    simp only [Option.some.injEq, iff_and_self]
    rintro rfl rfl
    exact hne rfl

theorem present?_eq_none {key : String} (hd : Distinct payload) :
    present? payload key = none ↔ ∀ u, (.ofString key, u) ∈ payload → u = .null := by
  rw [Option.eq_none_iff_forall_ne_some]
  refine forall_congr' fun u => ?_
  rw [Ne, present?_eq_some hd, not_and]
  exact ⟨fun h hmem => Classical.byContradiction fun hu => h hu hmem, fun h hu hmem => hu (h hmem)⟩

/-- **The value that a field is given is the one the payload gives it.** -/
theorem given?_eq_some (hd : Distinct payload) : given? payload f = some v ↔ Gives payload f v := by
  rw [given?_eq, Option.or_eq_some_iff]
  constructor
  · rintro (h | ⟨hnone, h⟩)
    · obtain ⟨hv, hmem⟩ := (present?_eq_some hd).1 h
      exact .key hv hmem
    · obtain ⟨hv, hmem⟩ := (present?_eq_some hd).1 h
      exact .name hv ((present?_eq_none hd).1 hnone) hmem
  · rintro (⟨hv, hmem⟩ | ⟨hv, hkey, hmem⟩)
    · exact .inl ((present?_eq_some hd).2 ⟨hv, hmem⟩)
    · exact .inr ⟨(present?_eq_none hd).2 hkey, (present?_eq_some hd).2 ⟨hv, hmem⟩⟩

theorem given?_eq_none (hd : Distinct payload) :
    given? payload f = none ↔ ∀ v, ¬ Gives payload f v := by
  rw [Option.eq_none_iff_forall_ne_some]
  exact forall_congr' fun v => not_congr (given?_eq_some hd)

theorem Gives.ne_null (h : Gives payload f v) : v ≠ .null := by
  rcases h with ⟨hv, -⟩ | ⟨hv, -, -⟩ <;> exact hv

theorem Gives.unique {u : Value} (hd : Distinct payload) (h : Gives payload f u)
    (h' : Gives payload f v) : u = v :=
  Option.some.inj (((given?_eq_some hd).2 h).symm.trans ((given?_eq_some hd).2 h'))

/-- Payloads with the same entries give the fields the same values. -/
theorem gives_of_mem (h : ∀ e, e ∈ other ↔ e ∈ payload) : Gives other f v ↔ Gives payload f v := by
  constructor
  · rintro (⟨hv, hmem⟩ | ⟨hv, hkey, hmem⟩)
    · exact .key hv ((h _).1 hmem)
    · exact .name hv (fun u hu => hkey u ((h _).2 hu)) ((h _).1 hmem)
  · rintro (⟨hv, hmem⟩ | ⟨hv, hkey, hmem⟩)
    · exact .key hv ((h _).2 hmem)
    · exact .name hv (fun u hu => hkey u ((h _).1 hu)) ((h _).2 hmem)

/-- Payloads that give a field the same values give it the same value. -/
theorem given?_congr (hd : Distinct payload) (ho : Distinct other)
    (h : ∀ v, Gives payload f v ↔ Gives other f v) : given? payload f = given? other f := by
  refine Option.ext fun v => ?_
  rw [given?_eq_some hd, given?_eq_some ho, h v]

/-! ## The form that a payload describes -/

/-- What a value lists as attachments. -/
inductive ListedAs : Value → List Value → Prop
  | text (t : Text) : ListedAs (.text t) [.text t]
  | list (items : List Value) : ListedAs (.list items) items
  | tuple (items : List Value) : ListedAs (.tuple items) items
  | dict (entries : Entries) : ListedAs (.dict entries) (entries.map fun e => e.1.toValue)

/-- A value lists attachments, or it is refused. -/
theorem attachmentList?_cases (v : Value) :
    (∃ items, ListedAs v items ∧ attachmentList? v = .ok (.list items)) ∨
    (∀ items, ¬ ListedAs v items) ∧ attachmentList? v = .error (Defaults.notIterable v) := by
  cases v with
  | text t => exact .inl ⟨_, .text t, rfl⟩
  | list items => exact .inl ⟨_, .list items, rfl⟩
  | tuple items => exact .inl ⟨_, .tuple items, rfl⟩
  | dict entries => exact .inl ⟨_, .dict entries, rfl⟩
  | null | bool b | int n | float x => exact .inr ⟨fun _ => nofun, rfl⟩

/-- The value of a field in the form of a payload that gives it a value: attachments are listed, other
values stand as they are. -/
def Taken (f : Field) (given value : Value) : Prop :=
  if f = .attachments then ∃ items, ListedAs given items ∧ value = .list items else value = given

/-- **The payload describes the form**: each field holds what the payload gives it, and its initial value if
the payload gives it nothing. -/
def Describes (payload : Entries) (form : Form) : Prop :=
  ∀ f, (∃ v, Gives payload f v ∧ Taken f v (form.get f)) ∨
    (∀ v, ¬ Gives payload f v) ∧ form.get f = f.initial

theorem ListedAs.unique {items others : List Value} (h : ListedAs v items) (h' : ListedAs v others) :
    items = others := by
  cases h <;> cases h' <;> rfl

theorem Taken.unique {a b : Value} (h : Taken f v a) (h' : Taken f v b) : a = b := by
  unfold Taken at h h'
  split at h
  · rename_i hf
    rw [if_pos hf] at h'
    obtain ⟨items, hitems, rfl⟩ := h
    obtain ⟨others, hothers, rfl⟩ := h'
    rw [hitems.unique hothers]
  · rename_i hf
    rw [if_neg hf] at h'
    exact h.trans h'.symm

/-- **A field depends only on what it is given.** -/
theorem Describes.get_congr {form' : Form} (ho : Distinct other) (h : Describes payload form)
    (h' : Describes other form') (hgives : ∀ v, Gives payload f v ↔ Gives other f v) :
    form.get f = form'.get f := by
  rcases h f with ⟨v, hv, htaken⟩ | ⟨hnone, heq⟩ <;>
    rcases h' f with ⟨v', hv', htaken'⟩ | ⟨hnone', heq'⟩
  · obtain rfl := ((hgives v).1 hv).unique ho hv'
    exact htaken.unique htaken'
  · exact absurd ((hgives v).1 hv) (hnone' v)
  · exact absurd ((hgives v').2 hv') (hnone v')
  · exact heq.trans heq'.symm

theorem listed?_none (hd : Distinct payload) (h : ∀ u, ¬ Gives payload .attachments u) :
    listed? payload = .ok (.list []) := by
  rw [listed?, (given?_eq_none hd).2 h]

theorem listed?_some (hd : Distinct payload) (h : Gives payload .attachments v) :
    listed? payload = attachmentList? v := by
  rw [listed?, (given?_eq_some hd).2 h]

theorem listed?_eq_ok (hd : Distinct payload) : listed? payload = .ok v ↔
    (∃ u, Gives payload .attachments u ∧ Taken .attachments u v) ∨
      (∀ u, ¬ Gives payload .attachments u) ∧ v = Field.initial .attachments := by
  constructor
  · intro h
    by_cases hgives : ∃ u, Gives payload .attachments u
    · obtain ⟨u, hu⟩ := hgives
      rw [listed?_some hd hu] at h
      rcases attachmentList?_cases u with ⟨items, hlisted, hlist⟩ | ⟨-, hlist⟩ <;>
        rw [hlist] at h <;> cases h
      exact .inl ⟨u, hu, items, hlisted, rfl⟩
    · have hnone := not_exists.1 hgives
      rw [listed?_none hd hnone] at h
      exact .inr ⟨hnone, (Except.ok.inj h).symm⟩
  · rintro (⟨u, hu, items, hlisted, rfl⟩ | ⟨hnone, rfl⟩)
    · rw [listed?_some hd hu]
      cases hlisted <;> rfl
    · exact listed?_none hd hnone

theorem listed?_eq_error (hd : Distinct payload) {e : Failure} : listed? payload = .error e ↔
    ∃ v, Gives payload .attachments v ∧ (∀ items, ¬ ListedAs v items) ∧
      e = Defaults.notIterable v := by
  constructor
  · intro h
    by_cases hgives : ∃ u, Gives payload .attachments u
    · obtain ⟨u, hu⟩ := hgives
      rw [listed?_some hd hu] at h
      rcases attachmentList?_cases u with ⟨items, -, hlist⟩ | ⟨hnot, hlist⟩ <;>
        rw [hlist] at h <;> cases h
      exact ⟨u, hu, hnot, rfl⟩
    · rw [listed?_none hd (not_exists.1 hgives)] at h
      cases h
  · rintro ⟨u, hu, hnot, rfl⟩
    rw [listed?_some hd hu]
    rcases attachmentList?_cases u with ⟨items, hlisted, -⟩ | ⟨-, hlist⟩
    · exact absurd hlisted (hnot items)
    · exact hlist

/-- **The form that is made from a payload is the one it describes.** -/
theorem ofPayload?_eq_ok (hd : Distinct payload) :
    ofPayload? (.dict payload) = .ok form ↔ Describes payload form := by
  have hother : ∀ f, f ≠ .attachments → ((given? payload f).getD f.initial = form.get f ↔
      (∃ v, Gives payload f v ∧ Taken f v (form.get f)) ∨
        (∀ v, ¬ Gives payload f v) ∧ form.get f = f.initial) := by
    intro f hf
    rw [← given?_eq_none hd]
    simp only [Taken, if_neg hf, ← given?_eq_some hd]
    cases given? payload f <;> simp [eq_comm]
  rw [ofPayload?_dict]
  constructor
  · intro h
    rcases hlisted : listed? payload with e | list
    · rw [hlisted] at h
      cases h
    · rw [hlisted] at h
      cases h
      intro f
      by_cases hf : f = .attachments
      · subst hf
        exact (listed?_eq_ok hd).1 hlisted
      · exact (hother f hf).1 (if_neg hf).symm
  · intro h
    rw [(listed?_eq_ok hd).2 (h .attachments)]
    refine congrArg (fun get => Except.ok (Form.mk get)) (funext fun f => ?_)
    by_cases hf : f = .attachments
    · rw [if_pos hf, hf]
    · rw [if_neg hf]
      exact (hother f hf).2 (h f)

/-- **A payload fails to describe a form only by attachments that cannot be listed.** -/
theorem ofPayload?_eq_error (hd : Distinct payload) {e : Failure} :
    ofPayload? (.dict payload) = .error e ↔
      ∃ v, Gives payload .attachments v ∧ (∀ items, ¬ ListedAs v items) ∧
        e = Defaults.notIterable v := by
  rw [← listed?_eq_error hd, ofPayload?_dict]
  cases listed? payload <;> simp [Except.map]

/-- Payloads that give the fields the same values describe the same form. -/
theorem ofPayload?_congr (hd : Distinct payload) (ho : Distinct other)
    (h : ∀ f v, Gives payload f v ↔ Gives other f v) :
    ofPayload? (.dict payload) = ofPayload? (.dict other) := by
  have hgiven : given? payload = given? other := funext fun f => given?_congr hd ho (h f)
  rw [ofPayload?_dict, ofPayload?_dict, listed?, listed?, hgiven]

/-- The order of the entries does not matter. -/
theorem ofPayload?_perm (hd : Distinct payload) (h : other.Perm payload) :
    ofPayload? (.dict other) = ofPayload? (.dict payload) := by
  have ho : Distinct other := (h.map Prod.fst).nodup_iff.2 hd
  exact ofPayload?_congr ho hd fun f v => gives_of_mem fun e => h.mem_iff

/-! ## Names in place of payload keys -/

/-- Different fields have different names. -/
theorem names_apart {f g : Field} (h : f ≠ g) : Text.ofString g.name ≠ Text.ofString f.name := by
  have hall : ∀ f ∈ Field.all, ∀ g ∈ Field.all, f ≠ g →
      Text.ofString g.name ≠ Text.ofString f.name := by
    decide +kernel
  exact hall f (Field.mem_all f) g (Field.mem_all g) h

/-- The payload with the name of the field renamed to the payload key, if nothing but null stands under
the payload key. -/
def renameField (payload : Entries) (f : Field) : Entries :=
  match present? payload f.payloadKey, Value.lookup? (Text.ofString f.name) payload with
  | none, some v =>
    Value.insert (Value.erase payload (Text.ofString f.name)) (.ofString f.payloadKey) v
  | _, _ => payload

/-- The payload with the names of fields renamed to their payload keys. -/
def renamed (fields : List Field) (payload : Entries) : Entries := fields.foldl renameField payload

/-- Renaming does not change what any field is given. -/
theorem given?_renameField (payload : Entries) (field f : Field) :
    given? (renameField payload field) f = given? payload f := by
  unfold renameField
  split
  · rename_i v hkey hname
    rw [given?_eq, given?_eq]
    by_cases hf : f = field
    · -- what stood under the name stands under the payload key now
      subst hf
      rw [hkey, Option.none_or]
      simp only [present?, Value.lookup?_insert, Value.lookup?_erase, if_true, hname]
      cases v with
      | null => by_cases hsame : Text.ofString f.payloadKey = Text.ofString f.name <;> simp [hsame]
      | _ => rfl
    · -- no key of another field was touched
      obtain ⟨hkeys, hkeyName⟩ := keys_apart hf
      have hnameKey := (keys_apart (Ne.symm hf)).2.symm
      simp only [present?, Value.lookup?_insert, Value.lookup?_erase, if_neg hkeys, if_neg hkeyName,
        if_neg hnameKey, if_neg (names_apart hf)]
  · rfl

/-- **Renaming does not change the form.** -/
theorem ofPayload?_renamed (fields : List Field) (payload : Entries) :
    ofPayload? (.dict (renamed fields payload)) = ofPayload? (.dict payload) := by
  have hgiven : given? (renamed fields payload) = given? payload := by
    induction fields generalizing payload with
    | nil => rfl
    | cons field rest ih =>
      exact (ih (renameField payload field)).trans (funext fun f => given?_renameField payload field f)
  rw [ofPayload?_dict, ofPayload?_dict, listed?, listed?, hgiven]

/-! ## The payload of a form -/

/-- The entries of a form have distinct keys. -/
theorem distinct_toEntries (form : Form) : Distinct form.toEntries := by
  have hkeys : form.toEntries.map Prod.fst = Field.all.map fun f => .ofString f.payloadKey := by
    rw [toEntries, List.map_map]
    rfl
  rw [Distinct, hkeys]
  decide +kernel

/-- A form has one entry for each field, under its payload key. -/
theorem mem_toEntries {key : Text} : (.text key, v) ∈ form.toEntries ↔
    ∃ f : Field, Text.ofString f.payloadKey = key ∧ form.get f = v := by
  rw [toEntries, List.mem_map]
  constructor
  · rintro ⟨f, -, heq⟩
    cases heq
    exact ⟨f, rfl, rfl⟩
  · rintro ⟨f, rfl, rfl⟩
    exact ⟨f, Field.mem_all f, rfl⟩

/-- The payload of a form gives each field its value, unless that is null. -/
theorem gives_toEntries : Gives form.toEntries f v ↔ v ≠ .null ∧ form.get f = v := by
  constructor
  · rintro (⟨hv, h⟩ | ⟨hv, -, h⟩) <;> obtain ⟨g, hkey, hget⟩ := mem_toEntries.1 h
    -- the key can only be that of the field itself
    · exact ⟨hv, (Classical.byContradiction fun hf => (keys_apart hf).1 hkey : f = g) ▸ hget⟩
    · exact ⟨hv, (Classical.byContradiction fun hf => (keys_apart hf).2 hkey : f = g) ▸ hget⟩
  · rintro ⟨hv, hget⟩
    exact .key hv (mem_toEntries.2 ⟨f, rfl, hget⟩)

/-- What comes back from the payload of a form. -/
theorem ofPayload?_toPayload {r : Form} : ofPayload? form.toPayload = .ok r ↔
    ∀ f, (form.get f ≠ .null ∧ Taken f (form.get f) (r.get f)) ∨
      form.get f = .null ∧ r.get f = f.initial := by
  rw [toPayload, ofPayload?_eq_ok (distinct_toEntries form), Describes]
  refine forall_congr' fun f => ?_
  simp only [gives_toEntries, not_and]
  constructor
  · rintro (⟨v, ⟨hv, rfl⟩, htaken⟩ | ⟨hnone, hinitial⟩)
    · exact .inl ⟨hv, htaken⟩
    · exact .inr ⟨Classical.byContradiction fun h => hnone _ h rfl, hinitial⟩
  · rintro (⟨hv, htaken⟩ | ⟨hnull, hinitial⟩)
    · exact .inl ⟨_, ⟨hv, rfl⟩, htaken⟩
    · exact .inr ⟨fun v hv hget => hv (hget.symm.trans hnull), hinitial⟩

/-- The attachments of the form are a list, and no field that starts as something is null. -/
structure Returns (form : Form) : Prop where
  attachments : ∃ items, form.get .attachments = .list items
  present : ∀ f : Field, f.initial ≠ .null → form.get f ≠ .null

/-- What is made from a payload has a list of attachments, and null only where a form starts with null. -/
theorem Describes.returns (h : Describes payload form) : Returns form := by
  refine ⟨?_, fun f hinitial hnull => ?_⟩
  · rcases h .attachments with ⟨v, -, items, -, hlist⟩ | ⟨-, hlist⟩
    · exact ⟨items, hlist⟩
    · exact ⟨[], hlist⟩
  · rcases h f with ⟨v, hgives, htaken⟩ | ⟨-, heq⟩
    · unfold Taken at htaken
      split at htaken
      · obtain ⟨items, -, hlist⟩ := htaken
        cases hnull.symm.trans hlist
      · exact hgives.ne_null (htaken.symm.trans hnull)
    · exact hinitial (heq.symm.trans hnull)

/-- **A form comes back from its payload exactly if** its attachments are a list and no field that starts
as something is null. -/
theorem ofPayload?_toPayload_self : ofPayload? form.toPayload = .ok form ↔ Returns form := by
  constructor
  · intro h
    exact ((ofPayload?_eq_ok (distinct_toEntries form)).1 h).returns
  · intro h
    refine ofPayload?_toPayload.2 fun f => ?_
    by_cases hnull : form.get f = .null
    · have hinitial : f.initial = .null :=
        Classical.byContradiction fun hne => h.present f hne hnull
      exact .inr ⟨hnull, hnull.trans hinitial.symm⟩
    · refine .inl ⟨hnull, ?_⟩
      unfold Taken
      split
      · rename_i hf
        obtain ⟨items, hlist⟩ := h.attachments
        rw [hf, hlist]
        exact ⟨items, .list items, rfl⟩
      · rfl

/-- A form that does not come back as it was does not come back as an equal one either. -/
theorem returns_of_same {r : Form} (h : ofPayload? form.toPayload = .ok r)
    (hsame : r.same form = true) : Returns form := by
  have hfields : ∀ f, (r.get f).same (form.get f) = true := fun f =>
    List.all_eq_true.1 hsame f (Field.mem_all f)
  rw [ofPayload?_toPayload] at h
  refine ⟨?_, fun f hinitial hnull => ?_⟩
  · have hlist : ∃ items, r.get .attachments = .list items := by
      rcases h .attachments with ⟨-, items, -, hlist⟩ | ⟨-, hlist⟩
      · exact ⟨items, hlist⟩
      · exact ⟨[], hlist⟩
    obtain ⟨items, hlist⟩ := hlist
    exact Value.list_of_same (hlist ▸ hfields .attachments)
  · rcases h f with ⟨hv, -⟩ | ⟨-, heq⟩
    · exact hv hnull
    · have hsame := hfields f
      rw [hnull, Value.same_null] at hsame
      exact hinitial (heq.symm.trans hsame)

/-! ## All together -/

/-- How the form of a payload depends on the payload. -/
structure PayloadLaws (payload : Entries) : Prop where
  /-- The form is the one that the payload describes. -/
  reads : ∀ form, ofPayload? (.dict payload) = .ok form ↔ Describes payload form
  /-- There is none exactly if the attachments that are given cannot be listed. -/
  fails : ∀ e, ofPayload? (.dict payload) = .error e ↔
    ∃ v, Gives payload .attachments v ∧ (∀ items, ¬ ListedAs v items) ∧ e = Defaults.notIterable v
  /-- The form comes back from its own payload. -/
  returns : ∀ form, ofPayload? (.dict payload) = .ok form → ofPayload? form.toPayload = .ok form
  /-- A field depends only on what the payload gives it. -/
  fieldwise : ∀ other, Distinct other → ∀ f, (∀ v, Gives payload f v ↔ Gives other f v) →
    ∀ form form', ofPayload? (.dict payload) = .ok form → ofPayload? (.dict other) = .ok form' →
      form.get f = form'.get f
  /-- Whatever else a payload holds is ignored. -/
  ignores : ∀ other, Distinct other → (∀ f v, Gives payload f v ↔ Gives other f v) →
    ofPayload? (.dict payload) = ofPayload? (.dict other)
  /-- The order of the entries does not matter. -/
  unordered : ∀ other, other.Perm payload → ofPayload? (.dict other) = ofPayload? (.dict payload)
  /-- Nor does it matter which names stand for payload keys that are free. -/
  renamed : ∀ fields, ofPayload? (.dict (renamed fields payload)) = ofPayload? (.dict payload)

theorem payloadLaws (hd : Distinct payload) : PayloadLaws payload where
  reads _ := ofPayload?_eq_ok hd
  fails _ := ofPayload?_eq_error hd
  returns _ h := ofPayload?_toPayload_self.2 ((ofPayload?_eq_ok hd).1 h).returns
  fieldwise _ ho _ hgives _ _ h h' :=
    ((ofPayload?_eq_ok hd).1 h).get_congr ho ((ofPayload?_eq_ok ho).1 h') hgives
  ignores _ ho := ofPayload?_congr hd ho
  unordered _ hperm := ofPayload?_perm hd hperm
  renamed fields := ofPayload?_renamed fields payload

/-- **Payloads and forms agree.** What a payload describes is settled field by field, by the first value
that is not null; the form comes back from its own payload; and a form made otherwise comes back exactly if
its attachments are a list and no field that starts as something is null. A form that does not come back as
it was does not come back as an equal one either. -/
theorem payloads_and_forms_agree (payload : Entries) (hd : Distinct payload) (form : Form) :
    PayloadLaws payload ∧ (ofPayload? form.toPayload = .ok form ↔ Returns form) ∧
      ∀ r, ofPayload? form.toPayload = .ok r → r.same form = true → Returns form :=
  ⟨payloadLaws hd, ofPayload?_toPayload_self, fun _ => returns_of_same⟩

/-- A payload with a null under a payload key, a single attachment, and a key that no field has. -/
def mixed : Entries := [
  (.ofString "csv_path", .ofString "a.csv"), (.ofString "csvPath", .null),
  (.ofString "attachments", .ofString "x.pdf"), (.int 1, .bool true)]

/-- The form that it describes. -/
def listing : Form :=
  (blank.set .csvPath (.ofString "a.csv")).set .attachments (.list [.ofString "x.pdf"])

/-- The mixed payload describes a form that comes back from its own payload and is described with the names
renamed as well; a form with a tuple of attachments does not come back. -/
theorem payloads_and_forms_agree_of_mixed :
    Distinct mixed ∧ ofPayload? (.dict mixed) = .ok listing ∧
      ofPayload? listing.toPayload = .ok listing ∧
      ofPayload? (.dict (renamed Field.all mixed)) = .ok listing ∧
      ofPayload? (blank.set .attachments (.tuple [])).toPayload ≠
        .ok (blank.set .attachments (.tuple [])) := by
  have hdistinct : Distinct mixed := by decide +kernel
  obtain ⟨laws, hreturn, -⟩ :=
    payloads_and_forms_agree mixed hdistinct (blank.set .attachments (.tuple []))
  have hform : ofPayload? (.dict mixed) = .ok listing := by
    refine congrArg (fun get => Except.ok (Form.mk get)) (funext fun f => ?_)
    cases f <;> rfl
  refine ⟨hdistinct, hform, laws.returns listing hform, (laws.renamed Field.all).trans hform, ?_⟩
  rw [ne_eq, hreturn]
  rintro ⟨⟨items, hlist⟩, -⟩
  cases hlist

end Form
end CampaignDesk
