import CampaignDesk.Proofs.Obstacles
import CampaignDesk.Proofs.Sample

/-!
# What becomes of the errors of a write

A temporary file is made, registered and then filled. An error on the way is told as a failure of the
write, which says what could not be done with which file and why. What counts as an error differs: while
the file is filled it is an error of the system or of the encoding, while it is made one of the system.

* `Drafting.TellsOf`: a failure of the write that tells of an error.
* `Drafting.writeWith`: a write with any way to make and to fill a file, and what it comes to at each stage.
* `TempCall.makingFault?_escapes_iff`: **what escapes untold while a file is made**: faults of other kinds,
  a directory that is no text, and paths that the system does not take.
* `Drafting.write_accounts_for_errors`: the stages put together for every write.
-/

namespace CampaignDesk

open Store World Act

namespace TempCall

variable {directory : Value} {stem suffix : Text} {w : World} {f : Failure}

/-- A file that cannot be made is not made: but for the number of calls the world stays as it is. -/
theorem createFile_unmade (h : makingFault? directory stem suffix w = some f) :
    createFile directory stem suffix w = (.error f, w.counted .create) := by
  have henter := enter_apply .create w
  unfold makingFault? at h
  unfold createFile
  rcases hfault : w.fault? .create with _ | g <;> simp only [hfault] at h henter
  · rw [bind_ok henter]
    simp only [bind_apply, get_apply, settle_apply, World.counted_systemTemp, World.counted_self,
      World.counted_store]
    rcases hpath : path? w.systemTemp directory stem suffix (w.counts .create + 1) with g | path <;>
      simp only [hpath] at h ⊢
    · cases h
      rfl
    rcases hmade : w.store.create? path with g | made <;> simp only [hmade] at h ⊢ <;> cases h
    rfl
  · cases h
    exact bind_error henter

/-- **What escapes while a file is made** is a fault of another kind than an error of the system; or no
fault is set and the directory is no text, or the path is one that the system does not take. -/
theorem makingFault?_escapes_iff :
    makingFault? directory stem suffix w = some f ∧ f.kind.isA .osError = false ↔
      w.fault? .create = some f ∧ f.kind.isA .osError = false ∨
      w.fault? .create = none ∧
        (path? w.systemTemp directory stem suffix (w.counts .create + 1) = .error f ∨
          ∃ path, path? w.systemTemp directory stem suffix (w.counts .create + 1) = .ok path ∧
            Path.refusal? path = some f) := by
  unfold makingFault?
  rcases hfault : w.fault? .create with _ | g
  case some => simp
  -- no fault is set, and the path of the file is looked at
  simp only [reduceCtorEq, false_and, true_and, false_or]
  rcases hpath : path? w.systemTemp directory stem suffix (w.counts .create + 1) with g | path
  · have hkind : g.kind.isA .osError = false := by
      unfold path? at hpath
      split at hpath <;> cases hpath
      rfl
    simp only [Option.some.injEq, Except.error.injEq, reduceCtorEq, false_and, exists_false, or_false]
    exact ⟨fun h => h.1, fun h => ⟨h, h ▸ hkind⟩⟩
  simp only [reduceCtorEq, false_or, Except.ok.injEq, exists_eq_left']
  rcases hrefused : Path.refusal? path with _ | g
  · -- what the system says of a path that it takes is an error of its own
    refine iff_of_false ?_ nofun
    rintro ⟨hmade, hkind⟩
    rcases hcreated : w.store.create? path with g | made <;> rw [hcreated] at hmade <;> cases hmade
    rw [Store.guarded_isA hrefused hcreated] at hkind
    cases hkind
  · have hcreated : w.store.create? path = .error g := by
      rw [Store.create?, Store.guarded, hrefused]
    simp only [hcreated, Option.some.injEq]
    exact ⟨fun h => h.1, fun h => ⟨h, h ▸ Path.refusal?_isA hrefused⟩⟩

end TempCall

namespace Drafting

/-! ## Errors that are told -/

/-- A failure of the write tells of an error: what could not be done, with which file, and why. -/
structure TellsOf (g : Failure) (what : String) (label : Text) (f : Failure) : Prop where
  kind : g.kind = .tempWriteFailed
  message : g.message =
    Text.ofString what ++ (" temp " : Text) ++ label ++ (": " : Text) ++ f.message
  cause : g.causes = (f.kind, f.message) :: f.causes

theorem failed_tellsOf (what : String) (label : Text) (f : Failure) :
    TellsOf (failed what label f) what label f := ⟨rfl, rfl, rfl⟩

/-- An error of the given sort is told, and any other failure is passed on as it is. -/
def Passes (told : Bool) (what : String) (label : Text) (f g : Failure) : Prop :=
  (told = true → TellsOf g what label f) ∧ (told = false → g = f)

theorem passes_ite (told : Bool) (what : String) (label : Text) (f : Failure) :
    Passes told what label f (if told then failed what label f else f) := by
  cases told
  · exact ⟨nofun, fun _ => rfl⟩
  · exact ⟨fun _ => failed_tellsOf what label f, nofun⟩

/-- A write with any way to make a file and any way to fill it, which may break off halfway. -/
def writeWith (make : Act (Text × Location)) (fill : Location → Act Unit) (label : Text) :
    Drafting Text := do
  let (path, l) ← match ← lift (Act.attempt make) with
    | .ok made => pure made
    | .error f => throw (if f.kind.isA .osError then failed "failed to create" label f else f)
  add path
  match ← lift (Act.attempt (fill l)) with
  | .ok () => pure ()
  | .error f =>
    throw (if f.kind.isA .osError || f.kind.isA .unicodeError then
      failed "failed to write" label f else f)
  lift (Act.log .debug logger
    (("Wrote temp " : Text) ++ label ++ (": " : Text) ++ path))
  return path

theorem write_eq (content suffix label : Text) (t : TempFiles) (w : World) :
    write content suffix label t w = writeWith (TempCall.createFile t.directory t.stem suffix)
      (fun l => TempCall.fillFile l content) label t w := rfl

section writeWith

variable {make : Act (Text × Location)} (fill : Location → Act Unit) (label : Text) (t : TempFiles)
  {path : Text} {l : Location} {w v u : World} {f : Failure}

/-- A file that is not made is not registered. -/
theorem writeWith_unmade (hmake : make w = (.error f, v)) :
    ∃ g, writeWith make fill label t w = ((.error g, t), v) ∧
      Passes (f.kind.isA .osError) "failed to create" label f g := by
  refine ⟨_, ?_, passes_ite _ _ _ _⟩
  simp only [writeWith, bind_apply, lift_apply, attempt_apply, hmake, throw_apply]

/-- **A file that is made is registered, even if filling it breaks off.** -/
theorem writeWith_unfilled (hmake : make w = (.ok (path, l), v)) (hfill : fill l v = (.error f, u)) :
    ∃ g, writeWith make fill label t w =
        ((.error g, { t with paths := t.paths ++ [path] }), u) ∧
      Passes (f.kind.isA .osError || f.kind.isA .unicodeError) "failed to write" label f g := by
  refine ⟨_, ?_, passes_ite _ _ _ _⟩
  simp only [writeWith, bind_apply, lift_apply, attempt_apply, hmake, pure_apply, add_apply, hfill,
    throw_apply]

end writeWith

/-! ## The account -/

/-- What becomes of the errors of a write, stage by stage. -/
structure WriteAccount (content suffix label : Text) (t : TempFiles) (w : World) : Prop where
  /-- If the file cannot be made, nothing is made or registered, and an error of the system is told. -/
  unmade : ∀ f, TempCall.makingFault? t.directory t.stem suffix w = some f →
    ∃ g, write content suffix label t w = ((.error g, t), w.counted .create) ∧
      Passes (f.kind.isA .osError) "failed to create" label f g
  /-- What is in the way of making a file and is no error of the system. -/
  escapes : ∀ f, TempCall.makingFault? t.directory t.stem suffix w = some f ∧
      f.kind.isA .osError = false ↔
    w.fault? .create = some f ∧ f.kind.isA .osError = false ∨
    w.fault? .create = none ∧
      (TempCall.path? w.systemTemp t.directory t.stem suffix (w.counts .create + 1) = .error f ∨
        ∃ path, TempCall.path? w.systemTemp t.directory t.stem suffix (w.counts .create + 1) =
          .ok path ∧ Path.refusal? path = some f)
  /-- If the file is made it is registered, however it is filled and wherever that breaks off, and an
  error of the system or of the encoding is told. -/
  broken : TempCall.makingFault? t.directory t.stem suffix w = none →
    ∃ path l v, TempCall.createFile t.directory t.stem suffix w = (.ok (path, l), v) ∧
      Created w path l v ∧
      ∀ (fill : Location → Act Unit) f u, fill l v = (.error f, u) →
        ∃ g, writeWith (TempCall.createFile t.directory t.stem suffix) fill label t w =
            ((.error g, { t with paths := t.paths ++ [path] }), u) ∧
          Passes (f.kind.isA .osError || f.kind.isA .unicodeError) "failed to write" label f g
  /-- If the content cannot be put into the file, the file is left empty. -/
  unfilled : TempCall.makingFault? t.directory t.stem suffix w = none →
    ∀ f, TempCall.fillingFault? content w = some f →
    ∃ g path l v,
      write content suffix label t w = ((.error g, { t with paths := t.paths ++ [path] }), v) ∧
      Created w path l v ∧ v.store.node? l = some (.file []) ∧
      Passes (f.kind.isA .osError || f.kind.isA .unicodeError) "failed to write" label f g
  /-- If nothing is in the way, the registered path reads as the bytes of the content. -/
  written : TempCall.makingFault? t.directory t.stem suffix w = none →
    TempCall.fillingFault? content w = none →
    ∃ path l v bytes,
      write content suffix label t w = ((.ok path, { t with paths := t.paths ++ [path] }), v) ∧
      Created w path l v ∧ Utf8.encode? content = .ok bytes ∧
      v.store.node? l = some (.file bytes) ∧ v.store.read? path = .ok bytes

/-- A file that cannot be made: the write fails, and an error of the system is told. -/
theorem write_unmade (content : Text) {suffix : Text} (label : Text) {t : TempFiles} {w : World} {f : Failure}
    (h : TempCall.makingFault? t.directory t.stem suffix w = some f) :
    ∃ g, write content suffix label t w = ((.error g, t), w.counted .create) ∧
      Passes (f.kind.isA .osError) "failed to create" label f g := by
  rw [write_eq]
  exact writeWith_unmade (fun l => TempCall.fillFile l content) label t (TempCall.createFile_unmade h)

/-- A file that nothing keeps from being made is made, and is empty at first. -/
theorem createFile_made {directory : Value} {stem suffix : Text} {w : World}
    (h : TempCall.makingFault? directory stem suffix w = none) :
    ∃ path l v, TempCall.createFile directory stem suffix w = (.ok (path, l), v) ∧
      Created w path l v ∧ v.store.node? l = some (.file []) ∧
      ∀ content, TempCall.fillingFault? content v = TempCall.fillingFault? content w := by
  rcases TempCall.createFile_outcome directory stem suffix w with
    ⟨f, v, hfault, -⟩ | ⟨made, v, -, hmake, hfilling⟩
  · cases h.symm.trans hfault
  rcases TempCall.createFile_cases directory stem suffix w with
    ⟨f, u, hfailed, -⟩ | ⟨path, l, u, number, hmade, -, hcreated, hfaults, hlogging, hhome⟩
  · cases hmake.symm.trans hfailed
  obtain rfl : v = u := congrArg Prod.snd (hmake.symm.trans hmade)
  have hempty : v.store.node? l = some (.file []) := by
    rw [(create?_eq_ok.1 hcreated).2.2.2, node?_put_self]
  exact ⟨path, l, v, hmade, created_of_create hcreated hfaults hlogging hhome, hempty, hfilling⟩

/-- The path of a file that was made reads as what the file holds. -/
theorem Created.read? {w v : World} {path : Text} {l : Location} (h : Created w path l v)
    {bytes : Bytes} (hfile : v.store.node? l = some (.file bytes)) :
    v.store.read? path = .ok bytes :=
  read?_of_creation? h.taken (h.same.tree.keepsTree.creation? h.leads) hfile

/-- **Every error of a write is accounted for.** A file that cannot be made leaves the set and all files as
they were; one that is made is registered, whatever becomes of it; and if nothing is in the way the path
that comes back reads as the bytes of the content. Errors of the system are told at both stages, those of
the encoding while the file is filled only: in a directory or a name that cannot be encoded, or that has a
zero, the refusal of the path escapes as it is. -/
theorem write_accounts_for_errors (content suffix label : Text) (t : TempFiles) (w : World) :
    WriteAccount content suffix label t w where
  unmade f hf := write_unmade content label hf
  escapes f := TempCall.makingFault?_escapes_iff
  broken hmade := by
    obtain ⟨path, l, v, hmake, hcreated, -⟩ := createFile_made hmade
    exact ⟨path, l, v, hmake, hcreated, fun fill f u hfill => writeWith_unfilled fill label t hmake hfill⟩
  unfilled hmade f hf := by
    obtain ⟨path, l, v, hmake, hcreated, hempty, hfilling⟩ := createFile_made hmade
    have hfill : (TempCall.fillFile l content v).1 = .error f := by
      rw [TempCall.fillFile_outcome, hfilling, hf]
      rfl
    rcases TempCall.fillFile_cases l content v with
      ⟨f', u, hrun, hsame, hhome⟩ | ⟨bytes, u, hrun, -⟩ <;> rw [hrun] at hfill <;> cases hfill
    -- breaking off leaves the new file empty
    have hkept : u.store.node? l = some (.file []) :=
      (hsame.node l (by simp) hcreated.unlogged).trans hempty
    obtain ⟨g, hwrite, hpasses⟩ := writeWith_unfilled
      (fun l => TempCall.fillFile l content) label t hmake hrun
    exact ⟨g, path, l, u, (write_eq content suffix label t w).trans hwrite,
      hcreated.trans (hsame.mono (by simp)) ⟨[], hkept⟩ hhome, hkept, hpasses⟩
  written hmade hfilled := by
    obtain ⟨path, l, v, hmake, -, -, hfilling⟩ := createFile_made hmade
    have hfill : (TempCall.fillFile l content v).1 = .ok () := by
      rw [TempCall.fillFile_outcome, hfilling, hfilled]
      rfl
    have hok : (write content suffix label t w).1.1 = .ok path := by
      simp only [write, bind_apply, get_apply, lift_apply, attempt_apply, hmake, pure_apply,
        add_apply, hfill]
      rfl
    rcases write_steps content suffix label t w with
      ⟨f, u, hrun, -⟩ | ⟨outcome, path', l', u, number, hrun, -, hcreated, hbytes⟩ <;>
      rw [hrun] at hok
    · cases hok
    obtain ⟨rfl, bytes, hencode, hfile⟩ := hbytes path hok
    obtain rfl : outcome = .ok path := hok
    exact ⟨path, l', u, bytes, hrun, hcreated, hencode, hfile, hcreated.read? hfile⟩

/-- **An error of the encoding can escape.** It is not so that every error of the system or of the encoding
that a write runs into comes out as a failure of the write: no byte stands for the directory here. -/
theorem refused_paths_escape :
    ¬ ∀ (content suffix label : Text) (t : TempFiles) (w : World) (f : Failure),
      TempCall.makingFault? t.directory t.stem suffix w = some f →
      (f.kind.isA .osError || f.kind.isA .unicodeError) = true →
      ∃ g, (write content suffix label t w).1.1 = .error g ∧ g.kind = .tempWriteFailed := by
  intro hall
  let t := TempFiles.none (.text [0xD800]) TempFiles.defaultStem
  obtain ⟨f, hfault, hkind⟩ : ∃ f,
      TempCall.makingFault? t.directory t.stem ".html" Sample.world = some f ∧
        f.kind = .unicodeEncodeError := ⟨_, rfl, rfl⟩
  obtain ⟨g, hrun, -, hpasses⟩ := write_unmade "x" "template" hfault
  obtain ⟨g', hout, htold⟩ := hall "x" ".html" "template" t Sample.world f hfault (by rw [hkind]; rfl)
  rw [hrun] at hout
  cases hout
  rw [hpasses (by rw [hkind]; rfl), hkind] at htold
  cases htold

end Drafting

end CampaignDesk
