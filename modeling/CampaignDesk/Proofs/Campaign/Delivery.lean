import CampaignDesk.Proofs.Engine.Conduct
import CampaignDesk.Proofs.Sample
import CampaignDesk.Proofs.Text.Utf8

/-!
# What an engine is given

* `Delivered`: a path leads to a fresh file with the bytes of some content.
* `provided_of_supplied_both`: **the template and the recipients of an order are delivered, or stay what
  the form says.**
* `engine_sees_what_was_sent`: **when an engine is called, the files of its order hold what the form
  holds, and they do so until the call ends** unless the engine changes them itself.
-/

namespace CampaignDesk

open Store World Act Preparation
open Drafting (Made)

variable {w v u : World} {t t' : TempFiles} {directory kept value : Value} {content path : Text}
  {l : Location}

/-- The path leads to the file at `l` in the directory for temporary files. Nothing stood there in
`w`, and in `v` there are the bytes of the content, which decode to nothing else. -/
structure Delivered (directory : Value) (w v : World) (content path : Text) (l : Location) :
    Prop where
  names : v.store.Names path l
  fresh : w.store.node? l = none
  below : ∃ d name, path = Path.join d name ∧ Path.slash ∉ name ∧
    (directory = .text d ∨ directory = .null ∧ d = w.systemTemp)
  file : ∃ bytes, Utf8.encode? content = .ok bytes ∧ Utf8.decode? bytes = .ok content ∧
    v.Holds l bytes

namespace Delivered

theorem later (h : Delivered directory w v content path l) {ls : List Location}
    (h' : v.SameBut ls u) (hl : l ∉ ls) : Delivered directory w u content path l := by
  obtain ⟨bytes, hencode, hdecode, hfile⟩ := h.file
  exact { h with
    names := h.names.mono h'.tree
    file := ⟨bytes, hencode, hdecode, hfile.sameBut h' hl⟩ }

theorem earlier (h : Delivered directory w v content path l) {ls : List Location}
    (h' : u.SameBut ls w) (hls : ∀ l ∈ ls, u.store.node? l = none)
    (hhome : w.systemTemp = u.systemTemp) : Delivered directory u v content path l := by
  refine { h with fresh := ?_, below := hhome ▸ h.below }
  by_cases hl : l ∈ ls
  · exact hls l hl
  · exact (h'.vacant l hl).1 h.fresh

theorem path_ne_nil (h : Delivered directory w v content path l) : path ≠ [] := by
  rintro rfl
  have hleads := h.names.leads
  cases hleads

end Delivered

theorem delivered_of_made {bytes : Bytes} (h : Made t w path l v)
    (hbytes : Utf8.encode? content = .ok bytes) (hfile : v.store.node? l = some (.file bytes)) :
    Delivered t.directory w v content path l := by
  refine ⟨h.names.mono h.same.tree, h.fresh, ?_, bytes, hbytes,
    Utf8.decode_encode hbytes, hfile, h.unlogged⟩
  obtain ⟨d, name, hd, hpath, hname⟩ := h.below
  refine ⟨d, name, hpath, hname, ?_⟩
  unfold Drafting.directory? at hd
  split at hd <;> cases hd
  · exact .inr ⟨by assumption, rfl⟩
  · exact .inl (by assumption)

/-- A field of an order holds what the form says: the path of a file that was delivered, the only
one made for the field, or else what was in the form already. -/
def Provided (directory : Value) (w v : World) (content : Option Text) (kept value : Value)
    (paths : List Text) : Prop :=
  match content with
  | none => paths = [] ∧ value = orEmpty kept
  | some content => ∃ path l, paths = [path] ∧ value = .text path ∧
      Delivered directory w v content path l

namespace Provided

variable {content : Option Text} {paths : List Text}

theorem later (h : Provided directory w v content kept value paths) {ls : List Location}
    (h' : v.SameBut ls u) (hls : ∀ l ∈ ls, v.store.node? l = none) :
    Provided directory w u content kept value paths := by
  cases content with
  | none => exact h
  | some content =>
    obtain ⟨path, l, hpaths, hvalue, hfile⟩ := h
    refine ⟨path, l, hpaths, hvalue, hfile.later h' fun hl => ?_⟩
    obtain ⟨bytes, -, -, hholds⟩ := hfile.file
    have hnode := hholds.node
    rw [hls l hl] at hnode
    cases hnode

theorem earlier (h : Provided directory w v content kept value paths) {ls : List Location}
    (h' : u.SameBut ls w) (hls : ∀ l ∈ ls, u.store.node? l = none)
    (hhome : w.systemTemp = u.systemTemp) : Provided directory u v content kept value paths := by
  cases content with
  | none => exact h
  | some content =>
    obtain ⟨path, l, hpaths, hvalue, hfile⟩ := h
    exact ⟨path, l, hpaths, hvalue, hfile.earlier h' hls hhome⟩

/-- The paths that are provided lead to files. -/
theorem delivered (h : Provided directory w v content kept value paths) :
    ∀ path ∈ paths, ∃ content l, Delivered directory w v content path l := by
  cases content with
  | none =>
    obtain ⟨rfl, -⟩ := h
    exact nofun
  | some content =>
    obtain ⟨path, l, rfl, -, hfile⟩ := h
    intro p hp
    cases List.mem_singleton.1 hp
    exact ⟨content, l, hfile⟩

theorem nodup (h : Provided directory w v content kept value paths) : paths.Nodup := by
  cases content with
  | none => simp [h.1]
  | some content =>
    obtain ⟨_, _, rfl, -⟩ := h
    simp

end Provided

/-- What a field was supplied with is provided. -/
theorem provided_of_supplied {content : Option Text} (h : Supplied content kept t w value t' v) :
    ∃ paths ls, t'.paths = t.paths ++ paths ∧ t'.directory = t.directory ∧
      v.systemTemp = w.systemTemp ∧ w.SameBut ls v ∧ (∀ l ∈ ls, w.store.node? l = none) ∧
      Provided t.directory w v content kept (orEmpty value) paths := by
  cases content with
  | none =>
    obtain ⟨rfl, rfl, rfl⟩ := h
    exact ⟨[], [], by simp, rfl, rfl, Std.Refl.refl v, nofun, rfl, rfl⟩
  | some content =>
    obtain ⟨path, l, bytes, rfl, rfl, hmade, hbytes, hfile⟩ := h
    have hdel := delivered_of_made hmade hbytes hfile
    refine ⟨[path], [l], rfl, rfl, hmade.home, hmade.same, ?_, path, l, rfl, ?_, hdel⟩
    · intro k hk
      cases List.mem_singleton.1 hk
      exact hmade.fresh
    · simp [orEmpty, Value.isTruthy, hdel.path_ne_nil]

/-- **Paths that are provided one after the other differ**: where the second one leads nothing stood
when the first file was there already. -/
theorem Provided.disjoint {content content' : Option Text} {kept' value' : Value}
    {paths paths' : List Text} {directory' : Value}
    (h : Provided directory w v content kept value paths)
    (h' : Provided directory' v u content' kept' value' paths') (htree : SameTree v.store u.store) :
    ∀ path ∈ paths, path ∉ paths' := by
  intro path hpath hpath'
  obtain ⟨_, k, hk⟩ := h.delivered path hpath
  obtain ⟨_, l, hl⟩ := h'.delivered path hpath'
  -- the same path would lead to the same location
  obtain rfl : k = l := (hk.names.mono htree).unique hl.names
  obtain ⟨bytes, -, -, hholds⟩ := hk.file
  have hnode := hholds.node
  rw [hl.fresh] at hnode
  cases hnode

/-- **Two fields that are supplied one after the other are both provided at the end**, with files whose
paths differ. -/
theorem provided_of_supplied_both {content content' : Option Text} {kept' value' : Value}
    {t'' : TempFiles} (h : Supplied content kept t w value t' v)
    (h' : Supplied content' kept' t' v value' t'' u) :
    ∃ paths paths', t''.paths = t.paths ++ (paths ++ paths') ∧ (paths ++ paths').Nodup ∧
      Provided t.directory w u content kept (orEmpty value) paths ∧
      Provided t.directory w u content' kept' (orEmpty value') paths' := by
  obtain ⟨paths, ls, hpaths, hdirectory, hhome, hls, hvacant, hprov⟩ := provided_of_supplied h
  obtain ⟨paths', ms, hpaths', -, -, hms, hvacant', hprov'⟩ := provided_of_supplied h'
  refine ⟨paths, paths', ?_, ?_, hprov.later hms hvacant', ?_⟩
  · rw [hpaths', hpaths, List.append_assoc]
  · rw [List.nodup_append]
    refine ⟨hprov.nodup, hprov'.nodup, fun p hp q hq hpq => ?_⟩
    exact hprov.disjoint hprov' hms.tree p hp (hpq ▸ hq)
  · -- where the second file stands nothing stood before the first was made
    rw [← hdirectory]
    exact hprov'.earlier hls hvacant hhome

namespace Dispatch

variable {operation : Campaign} {form : Form} {x : Entered}

/-- **The engine sees exactly what the form holds.** When an operation on a form comes to the call of
its engine, the template of the order is a fresh file with the inline template of the form, if that
is not blank, and else the template of the form; the recipients are a fresh file with the inline
recipients, if they are not blank but the path of the recipients is, and else the recipients of the
form. All other files are as they were. The files are two if both were made, and they are read
back the same at every moment of the call up to which no engine has changed them itself, whatever
operations are run inside. -/
theorem engine_sees_what_was_sent (h : entered? operation form w = some x) :
    (∀ call, perform call operation form w =
      leave operation x.files (call x.engine x.order x.world)) ∧
    ∃ template recipients, x.files.paths = template ++ recipients ∧ x.files.paths.Nodup ∧
      w.SameBut x.lent x.world ∧
      Provided w.service.tempDir w x.world (inline? (form.get .templateHtml))
        (form.get .templatePath) (x.order.get .templatePath) template ∧
      Provided w.service.tempDir w x.world (inlineRecipients? form)
        (form.get .csvPath) (x.order.get .csvPath) recipients ∧
      ∀ path ∈ x.files.paths, ∃ l bytes, x.world.store.Names path l ∧
        x.world.store.read? path = .ok bytes ∧
        ∀ (engine : Conduct) cs v, engine.Reaches x.world cs v → (∀ c ∈ cs, c.location ≠ l) →
          v.store.read? path = .ok bytes := by
  have hsame := Entered.same h
  refine ⟨fun call => ?_, ?_⟩
  · rcases perform_cases operation form w with ⟨y, hy, hrun⟩ | ⟨hnone, -⟩
    · cases h.symm.trans hy
      exact hrun call
    · cases h.symm.trans hnone
  unfold entered? at h
  rcases hprep : Preparation.prepare form (.bool (operation = .preview)) w.service.tempDir w with
    ⟨f | ⟨order, files⟩, v⟩ <;> rw [hprep] at h
  · cases h
  have hann := announce_sameBut (operationName operation) v
  simp only at h
  rcases hreach : announce (operationName operation) v with ⟨f | e, z⟩ <;> rw [hreach] at h hann <;>
    cases h
  obtain ⟨attachments, u, hdraft, hlog⟩ := prepare_ok hprep
  -- from the draft to the call only the log is written
  have hafter : u.SameFiles z := hlog.trans hann
  obtain ⟨template, recipients, t, m, htemplate, hrecipients, hfield, hfield'⟩ := draft_ok rfl hdraft
  obtain ⟨paths, paths', hpaths, hnodup, hprov, hprov'⟩ :=
    provided_of_supplied_both htemplate hrecipients
  have hall : files.paths = paths ++ paths' := hpaths
  have hfirst := hprov.later hafter nofun
  have hsecond := hprov'.later hafter nofun
  refine ⟨paths, paths', hall, hall ▸ hnodup, hsame, ?_, ?_, ?_⟩
  · rw [hfield]
    exact hfirst
  · rw [hfield']
    exact hsecond
  · intro path hpath
    have hdel : ∃ content l, Delivered w.service.tempDir w z content path l := by
      rcases List.mem_append.1 (hall ▸ hpath) with hmem | hmem
      · exact hfirst.delivered path hmem
      · exact hsecond.delivered path hmem
    obtain ⟨content, l, hfile⟩ := hdel
    obtain ⟨bytes, -, -, hholds⟩ := hfile.file
    refine ⟨l, bytes, hfile.names, hfile.names.read? hholds.node, fun engine cs v hreaches hcs => ?_⟩
    obtain ⟨hv, htree⟩ := hreaches.holds hholds hcs
    exact (hfile.names.mono htree).read? hv.node

/-- Inline content becomes a file even if the form names another template. -/
theorem engine_sees_what_was_sent_sample :
    ∃ x path l,
      entered? .run (Sample.form.set .templatePath (.ofString "other")) Sample.world = some x ∧
      x.order.get .templatePath = .text path ∧
      Delivered .null Sample.world x.world "<p>" path l := by
  obtain ⟨x, hx⟩ : ∃ x,
      entered? .run (Sample.form.set .templatePath (.ofString "other")) Sample.world = some x :=
    Option.isSome_iff_exists.1 rfl
  obtain ⟨-, _, _, -, -, -, ⟨path, l, -, hpath, hfile⟩, -⟩ := engine_sees_what_was_sent hx
  exact ⟨x, path, l, hx, hpath, hfile⟩

end Dispatch

end CampaignDesk
