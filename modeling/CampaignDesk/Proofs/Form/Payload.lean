import CampaignDesk.Form.Basic

/-!
# Payloads with further entries

* `Value.lookup?_insert`: what is found in entries after a key has been given a value.
* `Form.given?_insert`: the keys of different fields do not meet, so that a field is given what was put
  under its key, and the other fields what they were given before.
* `Form.ofPayload?_dict`: the form of a payload, field by field.
* `Form.overlaid`: a payload with further values put over it. `Form.ofPayload?_overlaid`: **its form is
  the form of the payload, changed field by field.**
-/

namespace CampaignDesk

theorem Key.same_text (k : Key) (t : Text) : k.same (.text t) = true ↔ k = .text t := by
  cases k <;> simp [Key.same, Key.number?]

/-- A key that was given a value is found with it, and every other key as before. -/
theorem Value.lookup?_insert (entries : Entries) (key : Text) (v : Value) (name : Text) :
    lookup? name (insert entries (.text key) v) = if key = name then some v else lookup? name entries := by
  induction entries with
  | nil => simp [insert, lookup?]
  | cons e rest ih =>
    obtain ⟨k, u⟩ := e
    by_cases hk : k = .text key
    · have hsame : k.same (.text key) = true := (Key.same_text k key).2 hk
      rw [insert, if_pos hsame, lookup?, lookup?, hk]
      by_cases hname : key = name
      · simp [hname]
      · simp [hname]
    · have hsame : ¬ k.same (.text key) = true := fun h => hk ((Key.same_text k key).1 h)
      rw [insert, if_neg hsame, lookup?, lookup?, ih]
      by_cases hname : k = .text name
      · have hother : key ≠ name := by
          rintro rfl
          exact hk hname
        rw [if_pos hname, if_pos hname, if_neg hother]
      · rw [if_neg hname, if_neg hname]

namespace Form

/-- No field has a name or a payload key that is the payload key of another field. -/
theorem keys_apart {f g : Field} (h : f ≠ g) :
    Text.ofString g.payloadKey ≠ Text.ofString f.payloadKey ∧
      Text.ofString g.payloadKey ≠ Text.ofString f.name := by
  have hall : ∀ f ∈ Field.all, ∀ g ∈ Field.all, f ≠ g →
      Text.ofString g.payloadKey ≠ Text.ofString f.payloadKey ∧
        Text.ofString g.payloadKey ≠ Text.ofString f.name := by
    decide +kernel
  exact hall f (Field.mem_all f) g (Field.mem_all g) h

variable {payload : Entries} {field : Field} {v : Value}

/-- A field is given what was put under its key, unless that is nothing. -/
theorem given?_insert (hv : v ≠ .null) (f : Field) :
    given? (Value.insert payload (.ofString field.payloadKey) v) f =
      if f = field then some v else given? payload f := by
  by_cases hf : f = field
  · subst hf
    rw [if_pos rfl, given?]
    simp only [Value.lookup?_insert, if_true]
    cases v with
    | null => exact absurd rfl hv
    | _ => rfl
  · obtain ⟨hkey, hname⟩ := keys_apart hf
    rw [if_neg hf, given?, given?]
    simp only [Value.lookup?_insert, if_neg hkey, if_neg hname]

/-- The attachments that a payload lists. -/
def listed? (payload : Entries) : Except Failure Value :=
  match given? payload .attachments with
  | none => .ok (.list [])
  | some v => attachmentList? v

/-- The form of a payload: the attachments are listed, every other field holds what it is given. -/
theorem ofPayload?_dict (payload : Entries) :
    ofPayload? (.dict payload) = (listed? payload).map fun list =>
      ⟨fun f => if f = .attachments then list else (given? payload f).getD f.initial⟩ := by
  simp only [ofPayload?, ofEntries?, listed?]
  rcases hgiven : given? payload .attachments with _ | v
  · refine congrArg (fun get => Except.ok (Form.mk get)) (funext fun f => ?_)
    by_cases hf : f = .attachments
    · rw [if_pos hf, hf, hgiven]
      rfl
    · rw [if_neg hf]
  · dsimp only
    rcases attachmentList? v with e | list <;> rfl

/-- The form of a payload with one more value put over it. -/
theorem ofPayload?_insert (hfield : field ≠ .attachments) (hv : v ≠ .null) :
    ofPayload? (.dict (Value.insert payload (.ofString field.payloadKey) v)) =
      (ofPayload? (.dict payload)).map fun form => form.set field v := by
  have hlisted : listed? (Value.insert payload (.ofString field.payloadKey) v) = listed? payload := by
    rw [listed?, listed?, given?_insert hv, if_neg hfield.symm]
  rw [ofPayload?_dict, ofPayload?_dict, hlisted]
  rcases listed? payload with e | list
  · rfl
  · refine congrArg (fun get => Except.ok (Form.mk get)) (funext fun f => ?_)
    rw [given?_insert hv]
    by_cases hf : f = field
    · simp only [hf, hfield, if_false, if_true, Option.getD_some]
    · simp only [hf, if_false]

/-- A payload with values put over it, each under the payload key of a field. -/
def overlaid (payload : Entries) (changes : List (Field × Value)) : Entries :=
  changes.foldl (fun entries c => Value.insert entries (.ofString c.1.payloadKey) c.2) payload

/-- A form with some fields changed. -/
def changed (form : Form) (changes : List (Field × Value)) : Form :=
  changes.foldl (fun form c => form.set c.1 c.2) form

/-- **The form of a payload with values put over it is the form of the payload, changed field by
field**, if no attachments are among them and no value is nothing; and it fails to be a form exactly as
the payload does. -/
theorem ofPayload?_overlaid {changes : List (Field × Value)}
    (h : ∀ c ∈ changes, c.1 ≠ .attachments ∧ c.2 ≠ .null) :
    ofPayload? (.dict (overlaid payload changes)) =
      (ofPayload? (.dict payload)).map fun form => form.changed changes := by
  induction changes generalizing payload with
  | nil => cases hform : ofPayload? (.dict payload) <;> simp [overlaid, changed, hform, Except.map]
  | cons c rest ih =>
    obtain ⟨hfield, hv⟩ := h c List.mem_cons_self
    have hrest := @ih (Value.insert payload (.ofString c.1.payloadKey) c.2)
      fun d hd => h d (List.mem_cons_of_mem c hd)
    rw [ofPayload?_insert hfield hv] at hrest
    refine hrest.trans ?_
    cases ofPayload? (.dict payload) <;> rfl

end Form

end CampaignDesk
