import CampaignDesk.Desk
import CampaignDesk.Proofs.Act
import CampaignDesk.Proofs.Json.Documents
import CampaignDesk.Proofs.Json.Printable
import CampaignDesk.Proofs.Sample
import CampaignDesk.Proofs.Store.Documents

/-!
# A mail server configuration, saved and loaded

* `writeText_writable`: a text that has bytes is saved where a file can be written, and nothing else
  changes.
* `saveServerConfig_composed`: **a configuration is put together before its file is opened.**
* `server_config_round_trip`: **a portable configuration saved at a path that can be written is loaded
  from there as it was**, keys in the same order at every level; the file is ASCII, and no other file
  changes.
-/

namespace CampaignDesk.Desk

open Store Act

variable {w : World} {path : Text} {l : Location}

/-- A text is saved as it is written to the store. -/
theorem writeText_apply (path text : Text) (w : World) :
    writeText path text w = ((w.store.writeText (PathForm.ofText path) text).1,
      { w with store := (w.store.writeText (PathForm.ofText path) text).2 }) := rfl

/-- A text that has bytes is saved where a file can be written, and nothing else changes. -/
theorem writeText_writable (h : Writable w.store (PathForm.ofText path).toText l) {text : Text}
    {content : Bytes} (htext : Utf8.encode? text = .ok content) :
    writeText path text w = (.ok (), { w with store := w.store.put l (.file content) }) := by
  rw [writeText_apply, h.writeText htext]

/-- **A configuration is put together before its file is opened**: one that cannot be leaves the file alone. -/
theorem saveServerConfig_composed (config : Value) (path : Text) (w : World) :
    saveServerConfig config path w = match Json.compose? w.host.writing ⟨some 2⟩ config with
      | .ok text => writeText path text w
      | .error f => (.error f, w) := by
  rw [saveServerConfig, Act.bind_apply, Act.get_apply]
  simp only [Act.bind_apply, settle_apply]
  rcases Json.compose? w.host.writing ⟨some 2⟩ config with f | text <;> rfl

/-- What is loaded from a file is the document in its text, if that is a dictionary. -/
theorem loadServerConfig_ok {text : Text} {entries : Entries}
    (hread : w.store.readText? (PathForm.ofText path) = .ok text)
    (hparse : Json.parseWithin? w.host.reading text = .ok (.dict entries)) :
    loadServerConfig path w = (.ok (.dict entries), w) := by
  rw [loadServerConfig, Act.bind_apply, Act.get_apply]
  simp only [readJson?, hread, hparse, bind, Except.bind]
  rfl

/-- **A portable configuration is loaded as it was saved.** Where there is room for its levels of nesting,
saving it at a path that can be written succeeds, gives one file a content in ASCII and changes nothing else;
loading from that path then gives the same dictionary, with its keys in the same order at every level. -/
theorem server_config_round_trip {entries : Entries} (hconfig : Json.Portable (.dict entries))
    (hwriting : (Value.dict entries).depth ≤ w.host.writing)
    (hreading : (Value.dict entries).depth ≤ w.host.reading)
    (hpath : ∃ s, w.store.write? (PathForm.ofText path).toText [] = .ok s) :
    ∃ l content v, saveServerConfig (.dict entries) path w = (.ok (), v) ∧
      w.store.creation? (PathForm.ofText path).toText = .ok l ∧
      v.store.node? l = some (.file content) ∧ (∀ b ∈ content, b.toNat < 0x80) ∧
      (∀ k ≠ l, v.store.node? k = w.store.node? k) ∧ v = { w with store := v.store } ∧
      loadServerConfig path v = (.ok (.dict entries), v) := by
  obtain ⟨s, hwrite⟩ := hpath
  obtain ⟨l, hwritable, -⟩ := write?_eq_ok.1 hwrite
  have hplain : Json.Plain (Json.indented 2 (.dict entries)) := Json.plain_write _ 0 _
  have hbytes := Utf8.encode?_ascii hplain.lt
  have hread := hwritable.readText? hbytes
  rw [hplain.unifyLineEnds] at hread
  have hsaved : saveServerConfig (.dict entries) path w =
      (.ok (), { w with store := w.store.put l (.file (Utf8.ascii (Json.indented 2 (.dict entries)))) }) := by
    rw [saveServerConfig_composed, hconfig.compose? hwriting]
    exact writeText_writable hwritable hbytes
  refine ⟨l, _, _, hsaved, hwritable.leads, node?_put_self _ _ _, ?_, ?_,
    rfl, ?_⟩
  · intro b hb
    exact Utf8.toNat_lt_of_mem_ascii hplain.lt hb
  · intro k hk
    exact node?_put_of_ne _ hk _
  · exact loadServerConfig_ok hread (Json.parseWithin?_indented hconfig hreading 2)

/-- A configuration with nested and empty containers, a negative number, a lone surrogate and a code
point beyond the first plane. -/
def sampleConfig : Entries := [
  (.ofString "smtp", .dict [
    (.ofString "host", .ofString "mail.example"),
    (.ofString "ports", .list [.int 25, .int (-587), .list []]),
    (.ofString "tls", .bool true)]),
  (.text [0xD800, 0x1F600], .text [0xDC00, 0xD800, 0x22, 0x0A]),
  (.ofString "auth", .dict []),
  (.ofString "proxy", .null)]

theorem sampleConfig_portable : Json.Portable (.dict sampleConfig) := by
  have hname (s : String) (h : Json.Unpaired (Text.ofString s)) :
      ∃ k, Key.ofString s = .text k ∧ Json.Unpaired k := ⟨_, rfl, h⟩
  refine .dict ?_ (by decide) ?_
  · simp only [sampleConfig, List.forall_mem_cons]
    exact ⟨hname _ (by decide), ⟨_, rfl, by decide⟩, hname _ (by decide), hname _ (by decide),
      List.forall_mem_nil _⟩
  · simp only [sampleConfig, List.forall_mem_cons]
    refine ⟨.dict ?_ (by decide) ?_, .text (by decide), .dict nofun (by decide) nofun, .null,
      List.forall_mem_nil _⟩
    · simp only [List.forall_mem_cons]
      exact ⟨hname _ (by decide), hname _ (by decide), hname _ (by decide), List.forall_mem_nil _⟩
    · simp only [List.forall_mem_cons]
      refine ⟨.text (by decide), .list ?_, .bool true, List.forall_mem_nil _⟩
      simp only [List.forall_mem_cons]
      exact ⟨.int (by decide), .int (by decide), .list nofun, List.forall_mem_nil _⟩

/-- The sample configuration is saved over the mail server configuration of the sample world and loaded
from there. -/
theorem server_config_round_trip_sample :
    Json.Portable (.dict sampleConfig) ∧
    (Value.dict sampleConfig).depth ≤ Sample.world.host.writing ∧
    (Value.dict sampleConfig).depth ≤ Sample.world.host.reading ∧
    (∃ s, Sample.world.store.write? (PathForm.ofText "mail.json").toText [] = .ok s) ∧
    ∃ v, saveServerConfig (.dict sampleConfig) "mail.json" Sample.world = (.ok (), v) ∧
      loadServerConfig "mail.json" v = (.ok (.dict sampleConfig), v) := by
  have hpath : ∃ s, Sample.world.store.write? (PathForm.ofText "mail.json").toText [] = .ok s :=
    ⟨_, rfl⟩
  have hdepth : (Value.dict sampleConfig).depth ≤ 960 := by decide
  obtain ⟨l, content, v, hsaved, -, -, -, -, -, hloaded⟩ :=
    server_config_round_trip sampleConfig_portable hdepth hdepth hpath
  exact ⟨sampleConfig_portable, hdepth, hdepth, hpath, v, hsaved, hloaded⟩

end CampaignDesk.Desk
