import CampaignDesk.Proofs.Act
import CampaignDesk.Proofs.Store.Resolution

/-!
# What operations leave alone

* `World.SameBut ls`: **two worlds have the same files** except at the locations `ls` and for what
  the log file holds, and the same directories without exception.
* `World.Restored`: files differ only where none stood before, and only if removing fails.
* `Logging.traces_induction`: what a record does to the files. `note_sameBut`: writing the log changes nothing else.
-/

namespace CampaignDesk

open Store

namespace Logging

variable {g : Logging} {s : Store} {l : Location}

/-- Whether log records are drawn on the console. -/
def isDrawn (g : Logging) : Bool := decide (.console .drawn ∈ g.handlers)

/-- The log is written to the file at `l`. -/
def WritesAt (g : Logging) (l : Location) : Prop := ∃ f, .file f ∈ g.handlers ∧ f.location = some l

theorem untilPassed_subset (ts : List LogTrace) : LogTrace.untilPassed ts ⊆ ts := by
  induction ts with
  | nil => exact List.Subset.refl _
  | cons t ts ih =>
    unfold LogTrace.untilPassed
    split
    · exact List.cons_subset.2 ⟨List.mem_cons_self, List.nil_subset _⟩
    · exact List.cons_subset_cons t ih

/-- **A trace of a record is that of a handler**, or a complaint, or a failure that was passed on. -/
theorem mem_traces {host : Host} {r : Record} {message : Except Failure Text} {now : Moment} {t : LogTrace}
    (h : t ∈ g.traces host r message now) :
    (∃ handler ∈ g.handlers, handler.take host r message now = t) ∨ (∃ said, t = .said said) ∨
      ∃ f, t = .passed f := by
  unfold traces at h
  split at h
  · split at h
    · obtain rfl := List.mem_singleton.1 h
      refine .inr ?_
      unfold bareTrace
      split
      · exact .inl ⟨_, rfl⟩
      · unfold LogTrace.failed
        split
        · exact .inl ⟨_, rfl⟩
        · exact .inr ⟨_, rfl⟩
    · cases h
  · split at h
    · exact .inl (List.mem_map.1 (untilPassed_subset _ h))
    · cases h

/-- What a handler may do with a record: a file is written to, a drawn console shows a text, and everything else
is a complaint or a failure that is passed on. -/
inductive Does : LogHandler → LogTrace → Prop
  | written (f : LogFile) (bytes : Bytes) : Does (.file f) (.written f bytes)
  | shown (t : Text) : Does (.console .drawn) (.shown t)
  | said (h : LogHandler) (t : Text) : Does h (.said t)
  | passed (h : LogHandler) (f : Failure) : Does h (.passed f)

theorem failed_does (host : Host) (r : Record) (f : Failure) (h : LogHandler) :
    Does h (LogTrace.failed host r f) := by
  unfold LogTrace.failed
  split
  · exact .said h _
  · exact .passed h f

theorem write_does (host : Host) (r : Record) (now : Moment) (h : LogHandler) : Does h (h.write host r now) := by
  unfold LogHandler.write
  split
  · split
    · exact failed_does host r _ _
    · split
      · exact .written _ _
      · exact failed_does host r _ _
  · exact .said _ _
  · split
    · exact .shown _
    · exact failed_does host r _ _

theorem take_does (host : Host) (r : Record) (message : Except Failure Text) (now : Moment) (h : LogHandler) :
    Does h (h.take host r message now) := by
  unfold LogHandler.take
  split
  · exact write_does host _ now h
  · split
    · exact .passed h _
    · exact failed_does host r _ h

/-- What is written of a record goes to log files. -/
theorem mem_handlers_of_written {host : Host} {r : Record} {message : Except Failure Text} {now : Moment}
    {f : LogFile} {bytes : Bytes} (h : .written f bytes ∈ g.traces host r message now) :
    .file f ∈ g.handlers := by
  obtain ⟨handler, hhandler, htake⟩ | ⟨said, hsaid⟩ | ⟨failure, hpassed⟩ := mem_traces h
  · have hdoes := take_does host r message now handler
    rw [htake] at hdoes
    cases hdoes
    exact hhandler
  · cases hsaid
  · cases hpassed

/-- Only a drawn console shows log records among the answers. -/
theorem traces_out {host : Host} (r : Record) (message : Except Failure Text) (now : Moment)
    (h : g.isDrawn = false) : (g.traces host r message now).flatMap LogTrace.out = [] := by
  refine List.flatMap_eq_nil_iff.2 fun t ht => ?_
  obtain ⟨handler, hhandler, rfl⟩ | ⟨said, rfl⟩ | ⟨failure, rfl⟩ := mem_traces ht
  · have hdoes := take_does host r message now handler
    generalize handler.take host r message now = t at hdoes
    cases hdoes with
    | shown t => exact absurd hhandler (of_decide_eq_false h)
    | _ => rfl
  · rfl
  · rfl

variable {host : Host} (r : Record) (message : Except Failure Text) (now : Moment)

/-- **A record adds to log files that are there, one after the other, and does nothing else**: what holds of a
store, and goes on to hold as log files get longer, holds of the store after a record. -/
theorem traces_induction {P : Store → Prop} (hs : P s)
    (hstep : ∀ t l content bytes, P t → g.WritesAt l → t.node? l = some (.file content) →
      P (t.put l (.file (content ++ bytes)))) :
    P ((g.traces host r message now).foldl LogTrace.leave s) := by
  refine List.foldlRecOn _ LogTrace.leave hs fun t ht trace htrace => ?_
  unfold LogTrace.leave
  split
  · next l format bytes =>
    unfold LogTrace.addBytes
    split
    · next content hcontent =>
      exact hstep t l content bytes ht ⟨_, mem_handlers_of_written htrace, rfl⟩ hcontent
    · exact ht
  · exact ht

theorem traces_node? (hl : ¬ g.WritesAt l) :
    ((g.traces host r message now).foldl LogTrace.leave s).node? l = s.node? l := by
  refine traces_induction r message now (P := fun t => t.node? l = s.node? l) rfl
    fun t k content bytes ht hk _ => ?_
  have hne : l ≠ k := fun hlk => hl (by rw [hlk]; exact hk)
  rw [node?_put_of_ne t hne, ht]

theorem traces_node?_eq_none :
    ((g.traces host r message now).foldl LogTrace.leave s).node? l = none ↔ s.node? l = none := by
  refine traces_induction r message now (P := fun t => t.node? l = none ↔ s.node? l = none) .rfl
    fun t k content bytes ht _ hcontent => ?_
  by_cases hlk : l = k
  · subst hlk
    simpa [hcontent] using ht
  · rw [node?_put_of_ne t hlk, ht]

theorem traces_sameTree : SameTree s ((g.traces host r message now).foldl LogTrace.leave s) :=
  traces_induction r message now (.refl s) fun _ _ _ _ ht _ hcontent =>
    ht.trans (sameTree_put (by simp [hcontent]))

/-- A log whose place was taken writes nowhere that it did not write before, and no more there. -/
theorem superseded_writesAt {made : Location} (h : (g.superseded made).WritesAt l) :
    g.WritesAt l ∧ l ≠ made := by
  obtain ⟨f, hf, hl⟩ := h
  obtain ⟨f' | c, hf', heq⟩ := List.mem_map.1 hf <;> cases heq
  by_cases hmade : f'.location = some made
  · simp [hmade] at hl
  rw [if_neg hmade] at hl
  refine ⟨⟨f', hf', hl⟩, ?_⟩
  rintro rfl
  exact hmade hl

end Logging

namespace World

/-- The files of two worlds are the same, except at the locations `ls` and for what the log file
holds. The log is written nowhere else than before, and the same calls of the system fail. -/
structure SameBut (ls : List Location) (w v : World) : Prop where
  faults : v.faults = w.faults
  quiet : ∀ l, v.logging.WritesAt l → w.logging.WritesAt l
  tree : SameTree w.store v.store
  vacant : ∀ l, l ∉ ls → (v.store.node? l = none ↔ w.store.node? l = none)
  node : ∀ l, l ∉ ls → ¬ w.logging.WritesAt l → v.store.node? l = w.store.node? l

/-- No fault is set for a call of the system. -/
def Spares (w : World) (call : TempCall) : Prop := ∀ f ∈ w.faults, f.call ≠ call

/-- The files of two worlds are the same, except for what the log file holds. -/
abbrev SameFiles (w v : World) : Prop := SameBut [] w v

namespace SameBut

variable {ls ms : List Location} {u v w : World}

instance : Std.Refl (SameBut ls) :=
  ⟨fun w => ⟨rfl, fun _ h => h, .refl w.store, fun _ _ => .rfl, fun _ _ _ => rfl⟩⟩

theorem mono (h : SameBut ls w v) (hsub : ∀ l ∈ ls, l ∈ ms) : SameBut ms w v :=
  { h with
    vacant := fun l hl => h.vacant l fun hm => hl (hsub l hm)
    node := fun l hl => h.node l fun hm => hl (hsub l hm) }

theorem append (h : SameBut ls w v) (h' : SameBut ms v u) : SameBut (ls ++ ms) w u := by
  refine ⟨h'.faults.trans h.faults, fun l hl => h.quiet l (h'.quiet l hl), h.tree.trans h'.tree,
    ?_, ?_⟩
  all_goals
    intro l hl
    rw [List.mem_append, not_or] at hl
  · exact (h'.vacant l hl.2).trans (h.vacant l hl.1)
  · intro hlog
    rw [h'.node l hl.2 (fun hv => hlog (h.quiet l hv)), h.node l hl.1 hlog]

theorem trans (h : SameBut ls w v) (h' : SameBut ls v u) : SameBut ls w u :=
  (h.append h').mono fun _ hl => (List.mem_append.1 hl).elim id id

instance : Trans (SameBut ls) (SameBut ls) (SameBut ls) := ⟨SameBut.trans⟩

theorem spares (h : SameBut ls w v) {call : TempCall} (hw : w.Spares call) : v.Spares call :=
  fun f hf => hw f (h.faults ▸ hf)

/-- A world with the same files, log and faults. -/
theorem of_eq (hs : v.store = w.store) (hf : v.faults = w.faults) (hl : v.logging = w.logging) :
    SameBut ls w v :=
  ⟨hf, fun _ h => hl ▸ h, hs ▸ .refl w.store, fun _ _ => by rw [hs], fun _ _ _ => by rw [hs]⟩

/-- Where nothing stands in either world there is no difference. -/
theorem close (h : SameBut ls w v) (hw : ∀ l ∈ ls, w.store.node? l = none)
    (hv : ∀ l ∈ ls, v.store.node? l = none) : SameFiles w v := by
  refine ⟨h.faults, h.quiet, h.tree, fun l _ => ?_, fun l _ hlog => ?_⟩
  all_goals by_cases hl : l ∈ ls
  · simp [hw l hl, hv l hl]
  · exact h.vacant l hl
  · rw [hw l hl, hv l hl]
  · exact h.node l hl hlog

end SameBut

/-- Files differ only where none stood before, and not even there if the system removes files. -/
def Restored (w v : World) : Prop :=
  ∃ ls, w.SameBut ls v ∧ (∀ l ∈ ls, w.store.node? l = none) ∧
    (w.Spares .remove → ∀ l ∈ ls, v.store.node? l = none)

namespace Restored

variable {w v : World}

theorem of_sameFiles (h : w.SameFiles v) : w.Restored v := ⟨[], h, nofun, fun _ => nofun⟩

theorem sameTree (h : w.Restored v) : SameTree w.store v.store := by
  obtain ⟨_, hsame, -⟩ := h
  exact hsame.tree

theorem sameFiles (h : w.Restored v) (hw : w.Spares .remove) : w.SameFiles v := by
  obtain ⟨ls, hsame, hvacant, hgone⟩ := h
  exact hsame.close hvacant (hgone hw)

end Restored

end World

open World Act

/-- Nothing is added to the answers by a record where no console is drawn. -/
theorem World.handed_out {w : World} (r : Record) (message : Except Failure Text)
    (h : w.logging.isDrawn = false) : (w.handed r message).out = w.out := by
  rw [handed, Logging.traces_out r message w.now h, List.append_nil]

theorem note_sameBut (r : Record) : Within SameFiles (Act.note r) := fun w =>
  ⟨rfl, fun _ h => h, Logging.traces_sameTree r _ w.now,
    fun _ _ => Logging.traces_node?_eq_none r _ w.now, fun _ _ hl => Logging.traces_node? r _ w.now hl⟩

theorem log_sameBut (level : Level) (logger : String) (message : Text) :
    Within SameFiles (Act.log level logger message) := note_sameBut _

end CampaignDesk
