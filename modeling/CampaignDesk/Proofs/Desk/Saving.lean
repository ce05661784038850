import CampaignDesk.Proofs.Desk.ServerConfig
import CampaignDesk.Proofs.Obstacles

/-!
# What a save leaves behind

A save opens its file, which empties it, and then writes. Whatever fails before that leaves everything as
it was; a text without bytes fails after it.

* `Desk.writeText_cases`: **the three ways in which a save can end.**
* `Desk.AllOrNothing`: a save replaces the content of one file, or leaves everything as it was.
* `saving_is_all_or_nothing_iff`: **a configuration is always saved so; a text is saved so unless it has a
  surrogate and there is something to lose.** `failed_save_empties_a_file` is such a loss.
-/

namespace CampaignDesk

open Store Act

namespace Desk

variable {path text : Text} {w v : World} {l : Location} {bytes : Bytes}

/-- A text without bytes leaves the file empty. -/
theorem writeText_unencodable (h : Writable w.store (PathForm.ofText path).toText l)
    {fault : Utf8.EncodeFault} (htext : Utf8.encode? text = .error fault) :
    writeText path text w =
      (.error (.unencodable fault), { w with store := w.store.put l (.file []) }) := by
  rw [writeText_apply]
  simp only [Store.writeText, h.write? [], htext]

/-- A file that cannot be opened is left alone, and so is everything else. -/
theorem writeText_unwritable (h : ∀ l, ¬ Writable w.store (PathForm.ofText path).toText l)
    (text : Text) : ∃ f, writeText path text w = (.error f, w) := by
  rcases hwrite : w.store.write? (PathForm.ofText path).toText [] with f | s
  · refine ⟨f, ?_⟩
    rw [writeText_apply]
    simp only [Store.writeText, hwrite]
  · obtain ⟨l, hl, -⟩ := write?_eq_ok.1 hwrite
    exact absurd hl (h l)

/-- **A save succeeds, fails before the file is open, or fails after that for want of bytes.** -/
theorem writeText_cases (path text : Text) (w : World) :
    (∃ l bytes, Writable w.store (PathForm.ofText path).toText l ∧ Utf8.encode? text = .ok bytes ∧
      writeText path text w = (.ok (), { w with store := w.store.put l (.file bytes) })) ∨
    (∃ f, (∀ l, ¬ Writable w.store (PathForm.ofText path).toText l) ∧
      writeText path text w = (.error f, w)) ∨
    ∃ l fault, Writable w.store (PathForm.ofText path).toText l ∧
      Utf8.encode? text = .error fault ∧ writeText path text w =
        (.error (.unencodable fault), { w with store := w.store.put l (.file []) }) := by
  by_cases hopens : ∃ l, Writable w.store (PathForm.ofText path).toText l
  · obtain ⟨l, hl⟩ := hopens
    rcases htext : Utf8.encode? text with fault | bytes
    · exact .inr (.inr ⟨l, fault, hl, rfl, writeText_unencodable hl htext⟩)
    · exact .inl ⟨l, bytes, hl, rfl, writeText_writable hl htext⟩
  · have hnone := not_exists.1 hopens
    obtain ⟨f, hf⟩ := writeText_unwritable hnone text
    exact .inr (.inl ⟨f, hnone, hf⟩)

/-! ## All or nothing -/

/-- The file at `l` holds the bytes, and nothing else has changed. -/
structure Replaced (w v : World) (l : Location) (bytes : Bytes) : Prop where
  holds : v.store.node? l = some (.file bytes)
  others : ∀ k ≠ l, v.store.node? k = w.store.node? k
  rest : v = { w with store := v.store }

/-- Nothing has changed. -/
structure Untouched (w v : World) : Prop where
  same : ∀ k, v.store.node? k = w.store.node? k
  rest : v = { w with store := v.store }

/-- A save of a text succeeds, and the file that the path leads to holds its bytes while nothing else has
changed; or it fails, and nothing has changed. -/
inductive AllOrNothing (path text : Text) (w : World) : Except Failure Unit × World → Prop
  | all {l : Location} {bytes : Bytes} {v : World} :
    w.store.creation? (PathForm.ofText path).toText = .ok l → Utf8.encode? text = .ok bytes →
    Replaced w v l bytes → AllOrNothing path text w (.ok (), v)
  | nothing {f : Failure} {v : World} : Untouched w v → AllOrNothing path text w (.error f, v)

theorem replaced_put (w : World) (l : Location) (bytes : Bytes) :
    Replaced w { w with store := w.store.put l (.file bytes) } l bytes :=
  ⟨node?_put_self _ _ _, fun _ hk => node?_put_of_ne _ hk _, rfl⟩

/-- To empty a file that is empty changes nothing. -/
theorem Replaced.untouched (h : Replaced w v l bytes) (hl : w.store.node? l = some (.file bytes)) :
    Untouched w v := by
  refine ⟨fun k => ?_, h.rest⟩
  by_cases hk : k = l
  · rw [hk, h.holds, hl]
  · exact h.others k hk

/-- **A save is all or nothing unless a file is lost to a text without bytes.** -/
theorem writeText_allOrNothing : AllOrNothing path text w (writeText path text w) ↔
    (∀ c ∈ text, c.isSurrogate = false) ∨
    ∀ l, Writable w.store (PathForm.ofText path).toText l → w.store.node? l = some (.file []) := by
  rcases writeText_cases path text w with ⟨l, bytes, hl, hbytes, hrun⟩ | ⟨f, hnone, hrun⟩ |
    ⟨l, fault, hl, hfault, hrun⟩ <;> rw [hrun]
  · exact iff_of_true (.all hl.leads hbytes (replaced_put w l bytes))
      (.inl (Utf8.encodeFrom_surrogate hbytes))
  · exact iff_of_true (.nothing ⟨fun _ => rfl, rfl⟩) (.inr fun l hl => absurd hl (hnone l))
  · have hput := replaced_put w l []
    constructor
    · rintro ⟨⟩
      next huntouched =>
      -- the file is empty now, so it was empty before
      refine .inr fun k hk => ?_
      rw [← huntouched.same k, Except.ok.inj (hk.leads.symm.trans hl.leads), hput.holds]
    · rintro (hclean | hempty)
      · rcases Utf8.encode?_cases text with ⟨bytes, hbytes, -⟩ | ⟨-, -, c, hc, hsurrogate⟩
        · cases hfault.symm.trans hbytes
        · rw [hclean c hc] at hsurrogate
          cases hsurrogate
      · exact .nothing (hput.untouched (hempty l hl))

/-- **A save is all or nothing, with one exception.** Saving a configuration either gives the file at the
path the bytes of its document, or fails with everything as it was. Saving a text does so exactly if the
text has no surrogate, or no file can be written at the path, or an empty file stands there. Otherwise it
fails for want of bytes and leaves an empty file there, whatever stood there before, and everything else
as it was. -/
theorem saving_is_all_or_nothing_iff (path : Text) (w : World) :
    (∀ config, AllOrNothing path (Json.indented 2 config) w (saveServerConfig config path w)) ∧
    ∀ text, (AllOrNothing path text w (saveText path (.text text) w) ↔
        (∀ c ∈ text, c.isSurrogate = false) ∨ ∀ l,
          Writable w.store (PathForm.ofText path).toText l → w.store.node? l = some (.file [])) ∧
      ((∃ c ∈ text, c.isSurrogate = true) →
        ∀ l, Writable w.store (PathForm.ofText path).toText l → ∃ fault v,
          saveText path (.text text) w = (.error (.unencodable fault), v) ∧ Replaced w v l []) := by
  refine ⟨fun config => ?_, fun text => ⟨writeText_allOrNothing, fun hsurrogate l hl => ?_⟩⟩
  · rw [saveServerConfig_composed]
    rcases hcompose : Json.compose? w.host.writing ⟨some 2⟩ config with f | text
    · exact .nothing ⟨fun _ => rfl, rfl⟩
    · obtain ⟨-, rfl⟩ := Json.compose?_eq_ok.1 hcompose
      have hplain : Json.Plain (Json.indented 2 config) := Json.plain_write _ 0 _
      exact writeText_allOrNothing.2 (.inl (Utf8.encodeFrom_surrogate (Utf8.encode?_ascii hplain.lt)))
  · rcases Utf8.encode?_cases text with ⟨bytes, -, hclean⟩ | ⟨fault, hfault, -⟩
    · obtain ⟨c, hc, htrue⟩ := hsurrogate
      cases htrue.symm.trans (hclean c hc)
    · exact ⟨fault, _, writeText_unencodable hl hfault, replaced_put w l []⟩

/-- The sample world with a template in the working directory. -/
def edited : World :=
  { Sample.world with store := Sample.world.store.put ["tmp", "a.html"] (.file [60, 112, 62]) }

/-- Over a template a text is saved with all of its bytes, one with a lone surrogate is not saved and takes
the template with it, and a configuration with a lone surrogate is saved. -/
theorem saving_is_all_or_nothing_iff_edited :
    AllOrNothing "a.html" "new" edited (saveText "a.html" (.ofString "new") edited) ∧
    (∃ fault v, saveText "a.html" (.text [0x61, 0xD800]) edited = (.error (.unencodable fault), v) ∧
      Replaced edited v ["tmp", "a.html"] []) ∧
    AllOrNothing "a.html" (Json.indented 2 (.text [0xD800])) edited
      (saveServerConfig (.text [0xD800]) "a.html" edited) := by
  obtain ⟨hconfig, htext⟩ := saving_is_all_or_nothing_iff "a.html" edited
  have hopens : Writable edited.store (PathForm.ofText "a.html").toText ["tmp", "a.html"] :=
    ⟨by decide, by decide, by decide⟩
  have hnew : Utf8.encode? "new" = .ok [0x6E, 0x65, 0x77] := by decide
  exact ⟨(htext "new").1.2 (.inl (Utf8.encodeFrom_surrogate hnew)),
    (htext [0x61, 0xD800]).2 ⟨0xD800, by decide, by decide⟩ _ hopens, hconfig _⟩

/-- **A failed save can empty a file.** Where a template stands a text with a lone surrogate is not saved,
and the template is empty afterwards. -/
theorem failed_save_empties_a_file :
    edited.store.node? ["tmp", "a.html"] = some (.file [60, 112, 62]) ∧
    (saveText "a.html" (.text [0xD800]) edited).2.store.node? ["tmp", "a.html"] = some (.file []) ∧
    ¬ AllOrNothing "a.html" [0xD800] edited (saveText "a.html" (.text [0xD800]) edited) := by
  have hopens : Writable edited.store (PathForm.ofText "a.html").toText ["tmp", "a.html"] :=
    ⟨by decide, by decide, by decide⟩
  refine ⟨by decide, by decide, fun h => ?_⟩
  rcases writeText_allOrNothing.1 h with hclean | hempty
  · exact absurd (hclean 0xD800 (by decide)) (by decide)
  · exact absurd (hempty _ hopens) (by decide)

end Desk

end CampaignDesk
