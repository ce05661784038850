import CampaignDesk.Proofs.TempFiles
import CampaignDesk.Proofs.Text.Utf8

/-!
# What keeps a temporary file from being written

Whether a temporary file can be written is settled before anything is done: by the faults set for the
next calls, by what stands in the directory, and by the content.

* `Text.Clean`, `Path.refusal?_eq_none`: **the system takes the clean paths.**
* `World.fault?`, `TempCall.enter_apply`: the fault that the next call of a kind runs into.
* `Drafting.Hindered`: an operation ends as what is in its way says. `Drafting.obstacle?`: the first
  thing in the way of a file.
* `Drafting.write_hindered`: **a file is written exactly if nothing is in the way**, and if something is,
  the failure says what.
-/

namespace CampaignDesk

open Store World Act

/-! ## Paths -/

/-- No zero and nothing without bytes, so that the text can be part of a path. -/
def Text.Clean (t : Text) : Prop :=
  ∀ c ∈ t, (c.isSurrogate && !Path.standsForByte c) = false ∧ c ≠ 0

/-- Only the code points of the text are looked at, not all that there are. -/
instance (t : Text) : Decidable t.Clean := List.decidableBAll _ t

theorem Text.Clean.append {s t : Text} (hs : s.Clean) (ht : t.Clean) : Text.Clean (s ++ t) := by
  intro c hc
  rcases List.mem_append.1 hc with hc | hc
  · exact hs c hc
  · exact ht c hc

theorem Path.encodeFaultFrom_eq_none {t : Text} {position : Nat} :
    encodeFaultFrom position t = none ↔ ∀ c ∈ t, (c.isSurrogate && !standsForByte c) = false := by
  induction t generalizing position with
  | nil => exact iff_of_true rfl nofun
  | cons c rest ih =>
    rw [List.forall_mem_cons]
    unfold encodeFaultFrom
    by_cases hc : (c.isSurrogate && !standsForByte c) = true
    · rw [if_pos hc]
      exact iff_of_false nofun fun h => Bool.false_ne_true (h.1.symm.trans hc)
    · rw [if_neg hc, ih]
      exact (and_iff_right (Bool.eq_false_iff.2 hc)).symm

/-- **The system takes a path exactly if it is clean.** -/
theorem Path.refusal?_eq_none {path : Text} : refusal? path = none ↔ path.Clean := by
  have hzero : path.contains 0 = false ↔ ∀ c ∈ path, c ≠ 0 := by
    rw [Bool.eq_false_iff, Ne, List.contains_iff_mem]
    exact ⟨fun h c hc heq => h (heq ▸ hc), fun h hmem => h 0 hmem rfl⟩
  unfold Text.Clean
  simp only [forall_and]
  rw [← hzero, ← @encodeFaultFrom_eq_none path 0]
  unfold refusal?
  cases encodeFaultFrom 0 path with
  | some fault => exact iff_of_false nofun fun h => nomatch h.1
  | none => cases path.contains 0 <;> simp

/-- **A path is refused for what cannot be encoded in it**, and if it can be encoded for a zero. -/
theorem Path.refusal?_eq_some {path : Text} {f : Failure} (h : refusal? path = some f) :
    (f.kind = .unicodeEncodeError ∧ ∃ c ∈ path, (c.isSurrogate && !standsForByte c) = true) ∨
    (f.kind = .valueError ∧ 0 ∈ path ∧ ∀ c ∈ path, (c.isSurrogate && !standsForByte c) = false) := by
  unfold refusal? at h
  rcases hfault : encodeFaultFrom 0 path with _ | fault <;> simp only [hfault] at h
  · split at h
    · rename_i hzero
      cases h
      exact .inr ⟨rfl, List.contains_iff_mem.1 hzero, encodeFaultFrom_eq_none.1 hfault⟩
    · cases h
  · cases h
    refine .inl ⟨rfl, Classical.byContradiction fun hnone => ?_⟩
    -- a path without such a code point has no fault
    have hall : ∀ c ∈ path, (c.isSurrogate && !standsForByte c) = false := by
      intro c hc
      exact Bool.eq_false_iff.2 fun hbad => hnone ⟨c, hc, hbad⟩
    rw [encodeFaultFrom_eq_none.2 hall] at hfault
    cases hfault

/-- What refuses a path is no error of the system. -/
theorem Path.refusal?_isA {path : Text} {f : Failure} (h : refusal? path = some f) :
    f.kind.isA .osError = false := by
  rcases refusal?_eq_some h with ⟨hkind, -⟩ | ⟨hkind, -⟩ <;> rw [hkind] <;> rfl

/-- What is refused of a path that the system takes is an error of the system. -/
theorem Store.guarded_isA {α : Type} {path : Text} {operation : Except SystemError α} {f : Failure}
    (htaken : Path.refusal? path = none) (h : guarded path operation = .error f) :
    f.kind.isA .osError = true := by
  unfold guarded at h
  rw [htaken] at h
  cases operation with
  | ok a => cases h
  | error e =>
    cases h
    exact system_isA_osError e path

theorem Path.clean_join {directory name : Text} (hd : directory.Clean) (hn : name.Clean) :
    Text.Clean (join directory name) := by
  have hslash : Text.Clean [slash] := by
    intro c hc
    cases List.mem_singleton.1 hc
    exact ⟨by decide, by decide⟩
  unfold join
  split
  · exact hn
  · split
    · exact hd.append hn
    · exact hd.append (hslash.append hn)

theorem Text.clean_ofNat (n : Nat) : Text.Clean (Text.ofNat n) := by
  intro c hc
  obtain ⟨hlow, hhigh⟩ := Text.bounds_of_mem_ofNat hc
  refine ⟨?_, fun hzero => ?_⟩
  · unfold CodePoint.isSurrogate
    rw [decide_eq_false (by omega), Bool.false_and, Bool.false_and]
  · rw [hzero] at hlow
    exact absurd hlow (by decide)

/-! ## Faults -/

/-- The failure set for the next call of a kind. -/
def World.fault? (w : World) (call : TempCall) : Option Failure :=
  (w.faults.find? fun f => f.call = call && f.index = w.counts call + 1).map (·.failure)

/-- The world after one more call of a kind. -/
def World.counted (w : World) (call : TempCall) : World :=
  { w with counts := fun c => if c = call then w.counts call + 1 else w.counts c }

@[simp] theorem World.counted_store (w : World) (call : TempCall) :
    (w.counted call).store = w.store := rfl

@[simp] theorem World.counted_systemTemp (w : World) (call : TempCall) :
    (w.counted call).systemTemp = w.systemTemp := rfl

@[simp] theorem World.counted_self (w : World) (call : TempCall) :
    (w.counted call).counts call = w.counts call + 1 := if_pos rfl

/-- Every fault that is set is an error of the system. -/
def World.SystemFaults (w : World) : Prop := ∀ f ∈ w.faults, f.failure.kind.isA .osError = true

theorem World.SystemFaults.fault? {w : World} (hw : w.SystemFaults) {call : TempCall} {f : Failure}
    (h : w.fault? call = some f) : f.kind.isA .osError = true := by
  obtain ⟨fault, hfind, rfl⟩ := Option.map_eq_some_iff.1 h
  exact hw fault (List.mem_of_find?_eq_some hfind)

/-- The outcome of a call that runs into a fault, or does not. -/
def outcomeOf : Option Failure → Except Failure Unit
  | some f => .error f
  | none => .ok ()

namespace TempCall

theorem enter_apply (call : TempCall) (w : World) :
    enter call w = (outcomeOf (w.fault? call), w.counted call) := by
  unfold enter World.fault?
  simp only
  rcases w.faults.find? _ with _ | f <;> rfl

/-- What keeps a file from being made. -/
def makingFault? (directory : Value) (stem suffix : Text) (w : World) : Option Failure :=
  match w.fault? .create with
  | some f => some f
  | none =>
    match path? w.systemTemp directory stem suffix (w.counts .create + 1) with
    | .error f => some f
    | .ok path =>
      match w.store.create? path with
      | .error f => some f
      | .ok _ => none

/-- What keeps a file from being filled. -/
def fillingFault? (content : Text) (w : World) : Option Failure :=
  match w.fault? .open with
  | some f => some f
  | none =>
    match Utf8.encode? content with
    | .error fault => some (.unencodable fault)
    | .ok _ => none

/-- **A file is made exactly if nothing keeps it from being made.** -/
theorem createFile_outcome (directory : Value) (stem suffix : Text) (w : World) :
    (∃ f v, makingFault? directory stem suffix w = some f ∧
      createFile directory stem suffix w = (.error f, v)) ∨
    ∃ made v, makingFault? directory stem suffix w = none ∧
      createFile directory stem suffix w = (.ok made, v) ∧
      ∀ content, fillingFault? content v = fillingFault? content w := by
  have henter := enter_apply .create w
  unfold makingFault? createFile
  cases hfault : w.fault? .create with
  | some f =>
    rw [hfault] at henter
    exact .inl ⟨f, _, rfl, bind_error henter⟩
  | none =>
    rw [hfault] at henter
    rw [bind_ok henter]
    simp only [bind_apply, get_apply, settle_apply, World.counted_store, World.counted_systemTemp,
      World.counted_self]
    rcases path? w.systemTemp directory stem suffix (w.counts .create + 1) with f | path
    · exact .inl ⟨f, _, rfl, rfl⟩
    simp only
    rcases w.store.create? path with f | ⟨store, l⟩
    · exact .inl ⟨f, _, rfl, rfl⟩
    · -- the calls that open files are not counted along
      exact .inr ⟨(path, l), _, rfl, rfl, fun _ => rfl⟩

theorem fillFile_outcome (l : Location) (content : Text) (w : World) :
    (fillFile l content w).1 = outcomeOf (fillingFault? content w) := by
  have henter := enter_apply .open w
  unfold fillingFault? fillFile
  cases hfault : w.fault? .open with
  | some f =>
    rw [hfault] at henter
    rw [bind_error henter]
    rfl
  | none =>
    rw [hfault] at henter
    rw [bind_ok henter]
    rcases Utf8.encode? content with fault | bytes <;> rfl

end TempCall

/-! ## Obstacles -/

namespace Drafting

/-- What is in the way of an operation: what cannot be done, with which file, and why. -/
abbrev Obstacle := String × Text × Failure

/-- How an operation ends is for what is in its way to say: it succeeds if nothing is, and else the
failure tells of it. -/
def Hindered {α : Type} (o : Option Obstacle) (outcome : Except Failure α) : Prop :=
  match o with
  | none => ∃ a, outcome = .ok a
  | some (what, label, f) => outcome = .error (failed what label f)

/-- What is in the way of one operation or else of the next. -/
theorem Hindered.bind {α β : Type} {d : Drafting α} {next : α → Drafting β} {t : TempFiles}
    {w : World} {o o' : Option Obstacle} (h : Hindered o (d t w).1.1)
    (h' : ∀ a, (d t w).1.1 = .ok a → Hindered o' (next a (d t w).1.2 (d t w).2).1.1) :
    Hindered (o.or o') ((d >>= next) t w).1.1 := by
  rw [bind_apply]
  cases o with
  | none =>
    obtain ⟨a, ha⟩ := h
    have hnext := h' a ha
    rcases hrun : d t w with ⟨⟨f | b, t'⟩, v⟩ <;> rw [hrun] at ha hnext <;> cases ha
    exact hnext
  | some obstacle =>
    have herror : (d t w).1.1 = .error (failed obstacle.1 obstacle.2.1 obstacle.2.2) := h
    rcases hrun : d t w with ⟨⟨f | b, t'⟩, v⟩ <;> rw [hrun] at herror <;> cases herror
    rfl

/-- What is in the way of a file with some content. -/
def obstacle? (t : TempFiles) (content suffix label : Text) (w : World) : Option Obstacle :=
  match TempCall.makingFault? t.directory t.stem suffix w with
  | some f => some ("failed to create", label, f)
  | none => (TempCall.fillingFault? content w).map fun f => ("failed to write", label, f)

/-- A directory that can be told, and whose name the system takes. -/
def Admits (w : World) (directory : Value) : Prop :=
  (directory = .null ∧ w.systemTemp.Clean) ∨ ∃ d, directory = .text d ∧ d.Clean

variable {t : TempFiles} {content suffix : Text} {w : World}

/-- A file is not made only because the system has an error. -/
theorem makingFault?_isA {stem : Text} {directory : Value} (hw : w.SystemFaults)
    (hdir : Admits w directory) (hstem : stem.Clean) (hsuffix : suffix.Clean) {f : Failure}
    (h : TempCall.makingFault? directory stem suffix w = some f) : f.kind.isA .osError = true := by
  obtain ⟨d, hpath, hd⟩ : ∃ d, TempCall.path? w.systemTemp directory stem suffix
      (w.counts .create + 1) = .ok (Path.join d (stem ++ Text.ofNat (w.counts .create + 1) ++ suffix)) ∧
      d.Clean := by
    rcases hdir with ⟨rfl, hd⟩ | ⟨d, rfl, hd⟩
    · exact ⟨_, rfl, hd⟩
    · exact ⟨d, rfl, hd⟩
  have htaken : Path.refusal? (Path.join d (stem ++ Text.ofNat (w.counts .create + 1) ++ suffix)) =
      none :=
    Path.refusal?_eq_none.2 (Path.clean_join hd ((hstem.append (Text.clean_ofNat _)).append hsuffix))
  unfold TempCall.makingFault? at h
  cases hfault : w.fault? .create with
  | some g =>
    rw [hfault] at h
    cases h
    exact hw.fault? hfault
  | none =>
    simp only [hfault, hpath] at h
    rcases hmade : w.store.create? _ with g | made <;> rw [hmade] at h <;> cases h
    exact Store.guarded_isA htaken hmade

theorem fillingFault?_isA (hw : w.SystemFaults) {f : Failure}
    (h : TempCall.fillingFault? content w = some f) :
    (f.kind.isA .osError || f.kind.isA .unicodeError) = true := by
  unfold TempCall.fillingFault? at h
  cases hfault : w.fault? .open with
  | some g =>
    rw [hfault] at h
    cases h
    rw [hw.fault? hfault, Bool.true_or]
  | none =>
    simp only [hfault] at h
    rcases hbytes : Utf8.encode? content with fault | bytes <;> rw [hbytes] at h <;> cases h
    rfl

/-- **A file is written exactly if nothing is in the way.** If something is, the failure says what could
not be done, and comes from what was in the way. -/
theorem write_hindered (content label : Text) (hw : w.SystemFaults) (hdir : Admits w t.directory)
    (hstem : t.stem.Clean) (hsuffix : suffix.Clean) :
    Hindered (obstacle? t content suffix label w) (write content suffix label t w).1.1 := by
  unfold obstacle? write
  simp only [bind_apply, get_apply, lift_apply, attempt_apply]
  rcases TempCall.createFile_outcome t.directory t.stem suffix w with
    ⟨f, v, hfault, hcreate⟩ | ⟨⟨path, l⟩, v, hfault, hcreate, hsame⟩
  · have hos : f.kind.isA .osError = true := makingFault?_isA hw hdir hstem hsuffix hfault
    simp only [hcreate, hfault, hos, if_true, bind_apply, throw_apply]
    rfl
  have hfill := TempCall.fillFile_outcome l content v
  simp only [hcreate, bind_apply, pure_apply, add_apply, lift_apply, attempt_apply, hfault, hfill,
    hsame]
  cases hfault' : TempCall.fillingFault? content w with
  | some f =>
    have hkind := fillingFault?_isA hw hfault'
    simp only [outcomeOf, hkind, if_true, bind_apply, throw_apply]
    rfl
  | none => exact ⟨path, rfl⟩

end Drafting

end CampaignDesk
