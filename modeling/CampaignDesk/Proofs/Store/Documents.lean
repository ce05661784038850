import CampaignDesk.Proofs.Store.Resolution
import CampaignDesk.Proofs.Text.Utf8
import CampaignDesk.Store.Document

/-!
# Texts written into files

* `Writable`: a path leads to a place where a file can stand. `write?_eq_ok`: **a file can be written
  exactly if its path is writable, and nothing but that place changes.**
* `Writable.writeText`: a text that has bytes is written as these bytes.
* `Writable.readText?`: what is written is read with its line ends unified.
-/

namespace CampaignDesk.Store

variable {s t : Store} {path : Text} {l : Location} {content : Bytes}

/-- The path leads to a place at which a file can stand. -/
structure Writable (s : Store) (path : Text) (l : Location) : Prop where
  taken : Path.refusal? path = none
  leads : s.creation? path = .ok l
  free : s.node? l ≠ some .directory

/-- What is guarded succeeds only if the system takes the path. -/
theorem guarded_eq_ok {α : Type} {operation : Except SystemError α} {a : α} :
    guarded path operation = .ok a ↔ Path.refusal? path = none ∧ operation = .ok a := by
  unfold guarded
  rcases Path.refusal? path with _ | f
  · cases operation <;> simp [about]
  · simp

theorem writable?_eq_ok :
    s.writable? path = .ok l ↔ s.creation? path = .ok l ∧ s.node? l ≠ some .directory := by
  unfold writable?
  rcases s.creation? path with e | k
  · simp [bind, Except.bind]
  · simp only [bind, Except.bind, Except.ok.injEq]
    rcases hnode : s.node? k with _ | _ | b <;>
      simp only [throw, throwThe, MonadExceptOf.throw, pure, Except.pure, reduceCtorEq, false_iff,
        Except.ok.injEq]
    · exact ⟨fun h => ⟨h, by simp [← h, hnode]⟩, And.left⟩
    · rintro ⟨rfl, hfree⟩
      exact hfree hnode
    · exact ⟨fun h => ⟨h, by simp [← h, hnode]⟩, And.left⟩

/-- Where something is put by a path, the path is writable. -/
theorem guarded_put_eq_ok {content : Location → Bytes} :
    guarded path (do
      let l ← s.writable? path
      return s.put l (.file (content l))) = .ok t ↔
      ∃ l, Writable s path l ∧ t = s.put l (.file (content l)) := by
  rw [guarded_eq_ok]
  constructor
  · rintro ⟨htaken, h⟩
    rcases hwritable : s.writable? path with e | l <;> rw [hwritable] at h <;> cases h
    obtain ⟨hleads, hfree⟩ := writable?_eq_ok.1 hwritable
    exact ⟨l, ⟨htaken, hleads, hfree⟩, rfl⟩
  · rintro ⟨l, h, rfl⟩
    refine ⟨h.taken, ?_⟩
    rw [writable?_eq_ok.2 ⟨h.leads, h.free⟩]
    rfl

/-- **A file can be written exactly if its path is writable**, and it stands where the path leads. -/
theorem write?_eq_ok :
    s.write? path content = .ok t ↔ ∃ l, Writable s path l ∧ t = s.put l (.file content) :=
  guarded_put_eq_ok

/-- **A file can be made longer exactly if its path is writable**; it holds nothing before it is made. -/
theorem append?_eq_ok : s.append? path content = .ok t ↔
    ∃ l, Writable s path l ∧ t = s.put l (.file (s.contentAt l ++ content)) := guarded_put_eq_ok

theorem Writable.write? (h : Writable s path l) (content : Bytes) :
    s.write? path content = .ok (s.put l (.file content)) := write?_eq_ok.2 ⟨l, h, rfl⟩

/-- A path stays writable when a file is written there. -/
theorem Writable.put (h : Writable s path l) (content : Bytes) :
    Writable (s.put l (.file content)) path l :=
  ⟨h.taken, (sameTree_put h.free).keepsTree.creation? h.leads, by simp⟩

/-- What was put at a location first does not matter if something else is put there. -/
theorem put_put (s : Store) (l : Location) (m n : Node) : (s.put l m).put l n = s.put l n := by
  have hothers (xs : List (Location × Node)) : others l (others l xs ++ [(l, m)]) = others l xs := by
    induction xs with
    | nil => simp [others]
    | cons x xs ih => by_cases hx : x.1 = l <;> simp [others, hx, ih]
  simp only [Store.put, hothers]

/-- **A text that has bytes is written as these bytes**, and nothing but its file changes. -/
theorem Writable.writeText {p : PathForm} (h : Writable s p.toText l) {text : Text}
    (htext : Utf8.encode? text = .ok content) :
    s.writeText p text = (.ok (), s.put l (.file content)) := by
  rw [Store.writeText, h.write? []]
  simp only [htext]
  rw [(h.put []).write? content, put_put]

/-- **What is written is read with its line ends unified.** -/
theorem Writable.readText? {p : PathForm} (h : Writable s p.toText l) {text : Text}
    (htext : Utf8.encode? text = .ok content) :
    (s.put l (.file content)).readText? p = .ok text.unifyLineEnds := by
  have hput := h.put content
  rw [Store.readText?, read?_of_creation? hput.taken hput.leads (node?_put_self s l _)]
  simp only [bind, Except.bind, textOfBytes?, Utf8.decode_encode htext]

end CampaignDesk.Store
