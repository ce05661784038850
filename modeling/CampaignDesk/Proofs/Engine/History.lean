import CampaignDesk.Proofs.Engine.Choice
import CampaignDesk.Proofs.Sample
import CampaignDesk.Session.Run

/-!
# The engine in use follows from the history

Engines are registered, asked for in use or by name, and packages come and go. What is in use at last can
be read off what was done, without the state in between.

* `Move`, `after`, `installed`: what is done, the world afterwards and the entry points then.
* `Fixed`: the engine that a history fixes. **The last one that was registered, or else the one that was
  chosen at the first request that succeeded since the last reset.**
* `current_iff`: **the registry holds the engine that the history fixes.**
* `engine_follows_from_history`: what every request answers.
-/

namespace CampaignDesk.Engine

open Registry Act

/-! ## Histories -/

/-- What is done: an engine is registered, or none; the engine in use or one with a name is asked for; or
other entry points are installed. -/
inductive Move
  | register (engine : Option EngineRef)
  | use
  | find (name : Text)
  | install (points : List EntryPoint)

/-- The world after a move. -/
def Move.apply : Move → World → World
  | .register engine, w => (Engine.register engine w).2
  | .use, w => (inUse w).2
  | .find name, w => (named name w).2
  | .install points, w => { w with registry := { w.registry with entryPoints := points } }

/-- The world after some moves, the first one first. -/
def after (moves : List Move) (w : World) : World := moves.foldl (fun w m => m.apply w) w

/-- The entry points that are installed after some moves. -/
def installed (points : List EntryPoint) : List Move → List EntryPoint
  | [] => points
  | .install points :: later => installed points later
  | .register _ :: later | .use :: later | .find _ :: later => installed points later

/-- No engine is registered, and there is no reset. -/
def Unregistered (moves : List Move) : Prop := ∀ engine, .register engine ∉ moves

/-- The moves end with a reset, or nothing has been done yet. -/
inductive Reset : List Move → Prop
  | start : Reset []
  | again (before : List Move) : Reset (before ++ [.register none])

/-- Whenever the engine in use is asked for in `quiet`, which comes after `before`, a load fails. -/
def Idle (points : List EntryPoint) (before quiet : List Move) : Prop :=
  ∀ asked later, quiet = asked ++ .use :: later → ¬ Loads (installed points (before ++ asked))

/-- What a history fixes, with these entry points installed at first: an engine, or none yet. -/
inductive Fixed (points : List EntryPoint) : List Move → Option EngineRef → Prop
  /-- The last registration was of an engine. -/
  | registered (before : List Move) (e : EngineRef) {later : List Move} : Unregistered later →
    Fixed points (before ++ .register (some e) :: later) (some e)
  /-- Since the last reset the engine in use was asked for, and the first time that this succeeded it was
  chosen. -/
  | chosen {before quiet later : List Move} {e : EngineRef} : Reset before → Unregistered quiet →
    Idle points before quiet → Loads (installed points (before ++ quiet)) →
    Chosen (installed points (before ++ quiet)) e → Unregistered later →
    Fixed points (before ++ quiet ++ .use :: later) (some e)
  /-- Since the last reset no request for the engine in use succeeded. -/
  | undecided {before quiet : List Move} : Reset before → Unregistered quiet →
    Idle points before quiet → Fixed points (before ++ quiet) none

variable {w v : World} {m : Move} {moves before quiet later : List Move} {points : List EntryPoint}
  {c : Option EngineRef} {e : EngineRef}

/-! ## Moves -/

theorem after_cons (m : Move) (moves : List Move) (w : World) :
    after (m :: moves) w = after moves (m.apply w) := rfl

theorem after_append (moves later : List Move) (w : World) :
    after (moves ++ later) w = after later (after moves w) := List.foldl_append

theorem unregistered_nil : Unregistered [] := fun _ => List.not_mem_nil

theorem unregistered_append :
    Unregistered (moves ++ later) ↔ Unregistered moves ∧ Unregistered later := by
  simp [Unregistered, forall_and]

theorem unregistered_singleton : Unregistered [m] ↔ ∀ engine, m ≠ .register engine := by
  simp [Unregistered, eq_comm]

/-- Only an installation changes the entry points. -/
theorem apply_entryPoints (m : Move) (w : World) :
    (m.apply w).registry.entryPoints = installed w.registry.entryPoints [m] := by
  cases m with
  | register engine => rfl
  | use =>
    rcases inUse_cases w with ⟨e, -, hrun⟩ | ⟨-, -, e, v, -, hrun, hv⟩ | ⟨-, -, f, v, hrun, hv⟩
    · simp only [Move.apply, hrun, installed]
    · simp only [Move.apply, hrun, installed, hv]
    · simp only [Move.apply, hrun, installed, hv]
  | find name => simp only [Move.apply, named_registry, installed]
  | install points => rfl

theorem after_entryPoints (moves : List Move) (w : World) :
    (after moves w).registry.entryPoints = installed w.registry.entryPoints moves := by
  induction moves generalizing w with
  | nil => rfl
  | cons m moves ih =>
    rw [after_cons, ih, apply_entryPoints]
    cases m <;> rfl

/-- What was settled on stays until something is registered. -/
theorem apply_settled (hm : ∀ engine, m ≠ .register engine) (h : w.registry.current = some e) :
    (m.apply w).registry.current = some e := by
  cases m with
  | register engine => exact absurd rfl (hm engine)
  | use => rwa [Move.apply, inUse_of_some h]
  | find name => rwa [Move.apply, named_registry]
  | install points => exact h

theorem after_settled (hlater : Unregistered later) (h : w.registry.current = some e) :
    (after later w).registry.current = some e := by
  induction later generalizing w with
  | nil => exact h
  | cons m later ih =>
    have hm : ∀ engine, m ≠ .register engine := fun engine hm => hlater engine (hm ▸ List.mem_cons_self)
    exact ih (fun engine hmem => hlater engine (List.mem_cons_of_mem m hmem)) (apply_settled hm h)

/-- Nothing is settled on by a request that fails. -/
theorem apply_open (hm : ∀ engine, m ≠ .register engine)
    (huse : m = .use → ¬ Loads w.registry.entryPoints) (h : w.registry.current = none) :
    (m.apply w).registry.current = none := by
  cases m with
  | register engine => exact absurd rfl (hm engine)
  | use =>
    rcases inUse_cases w with ⟨e, hsome, -⟩ | ⟨-, hloads, -⟩ | ⟨-, -, f, v, hrun, hv⟩
    · cases h.symm.trans hsome
    · exact absurd hloads (huse rfl)
    · rw [Move.apply, hrun, hv, h]
  | find name => rwa [Move.apply, named_registry]
  | install points => exact h

/-- A request that succeeds settles on the engine that is chosen then. -/
theorem apply_use (h : w.registry.current = none) (hloads : Loads w.registry.entryPoints)
    (hchosen : Chosen w.registry.entryPoints e) : (Move.use.apply w).registry.current = some e := by
  rcases inUse_cases w with ⟨e', hsome, -⟩ | ⟨-, -, e', v, hchosen', hrun, hv⟩ | ⟨-, hfails, -⟩
  · cases h.symm.trans hsome
  · rw [Move.apply, hrun, hv, hchosen.unique hchosen']
  · exact absurd hloads hfails

theorem idle_nil : Idle points before [] := fun asked later h => by simp at h

theorem Idle.append (h : Idle points before quiet)
    (hm : m = .use → ¬ Loads (installed points (before ++ quiet))) :
    Idle points before (quiet ++ [m]) := by
  intro asked later hsplit
  rcases split_append_singleton hsplit with ⟨rfl, huse, -⟩ | ⟨later, -, hquiet⟩
  · exact hm huse.symm
  · exact h asked later hquiet

theorem Idle.of_append (h : Idle points before (quiet ++ [m])) :
    Idle points before quiet ∧ (m = .use → ¬ Loads (installed points (before ++ quiet))) := by
  refine ⟨?_, ?_⟩
  · rintro asked later rfl
    exact h asked (later ++ [m]) (by simp)
  · rintro rfl
    exact h quiet [] rfl

/-- While every request fails nothing is settled on. -/
theorem after_idle (hquiet : Unregistered quiet)
    (hidle : Idle w.registry.entryPoints before quiet)
    (h : (after before w).registry.current = none) :
    (after (before ++ quiet) w).registry.current = none := by
  induction quiet using List.reverseRecOn with
  | nil => simpa using h
  | append_singleton quiet m ih =>
    obtain ⟨hquiet, hm⟩ := unregistered_append.1 hquiet
    obtain ⟨hidle, huse⟩ := hidle.of_append
    rw [← List.append_assoc, after_append]
    refine apply_open (unregistered_singleton.1 hm) ?_ (ih hquiet hidle)
    rwa [after_entryPoints]

theorem Reset.current (h : Reset before) (hw : w.registry.current = none) :
    (after before w).registry.current = none := by
  cases h with
  | start => exact hw
  | again before =>
    rw [after_append]
    rfl

/-! ## What a history fixes -/

/-- The registry holds what the history fixes. -/
theorem Fixed.current (hw : w.registry.current = none) (h : Fixed w.registry.entryPoints moves c) :
    (after moves w).registry.current = c := by
  cases h with
  | registered before e hlater =>
    rw [after_append, after_cons]
    exact after_settled hlater rfl
  | chosen hreset hquiet hidle hloads hchosen hlater =>
    rw [after_append, after_cons]
    have hopen := after_idle hquiet hidle (hreset.current hw)
    rw [← after_entryPoints] at hloads hchosen
    exact after_settled hlater (apply_use hopen hloads hchosen)
  | undecided hreset hquiet hidle => exact after_idle hquiet hidle (hreset.current hw)

/-- Every history fixes something, move by move. -/
theorem Fixed.append (h : Fixed points moves c) (m : Move) : ∃ c', Fixed points (moves ++ [m]) c' := by
  have hkeep (hm : ∀ engine, m ≠ .register engine) {later : List Move} (hlater : Unregistered later) :
      Unregistered (later ++ [m]) := unregistered_append.2 ⟨hlater, unregistered_singleton.2 hm⟩
  by_cases hm : ∀ engine, m ≠ .register engine
  -- what was fixed stays so, unless this is the first request that succeeds
  · cases h with
    | registered before e hlater =>
      exact ⟨some e, by simpa using Fixed.registered before e (hkeep hm hlater)⟩
    | chosen hreset hquiet hidle hloads hchosen hlater =>
      exact ⟨_, by simpa using Fixed.chosen hreset hquiet hidle hloads hchosen (hkeep hm hlater)⟩
    | @undecided before quiet hreset hquiet hidle =>
      by_cases huse : m = .use ∧ Loads (installed points (before ++ quiet))
      · obtain ⟨rfl, hloads⟩ := huse
        obtain ⟨e, hchosen⟩ : ∃ e, Chosen (installed points (before ++ quiet)) e := by
          rcases first?_gathered (installed points (before ++ quiet)) with ⟨-, h⟩ | ⟨_, e, -, h⟩
          · exact ⟨_, h⟩
          · exact ⟨e, h⟩
        exact ⟨some e, .chosen hreset hquiet hidle hloads hchosen unregistered_nil⟩
      · refine ⟨none, ?_⟩
        rw [List.append_assoc]
        exact .undecided hreset (hkeep hm hquiet) (hidle.append fun h hloads => huse ⟨h, hloads⟩)
  · simp only [not_forall, not_not] at hm
    obtain ⟨_ | e, rfl⟩ := hm
    · exact ⟨none, by simpa using Fixed.undecided (.again moves) unregistered_nil idle_nil⟩
    · exact ⟨some e, .registered moves e unregistered_nil⟩

theorem fixed_exists (points : List EntryPoint) (moves : List Move) : ∃ c, Fixed points moves c := by
  induction moves using List.reverseRecOn with
  | nil => exact ⟨none, .undecided .start unregistered_nil idle_nil⟩
  | append_singleton moves m ih =>
    obtain ⟨c, h⟩ := ih
    exact h.append m

/-- **The registry holds the engine that the history fixes.** -/
theorem current_iff (hw : w.registry.current = none) :
    (after moves w).registry.current = c ↔ Fixed w.registry.entryPoints moves c := by
  refine ⟨?_, Fixed.current hw⟩
  rintro rfl
  obtain ⟨c, h⟩ := fixed_exists w.registry.entryPoints moves
  rwa [h.current hw]

/-! ## What requests answer -/

/-- What is answered is what the registry holds afterwards. -/
theorem inUse_eq_ok : (inUse w).1 = .ok e ↔ (Move.use.apply w).registry.current = some e := by
  rcases inUse_cases w with ⟨e', hsome, hrun⟩ | ⟨-, -, e', v, -, hrun, hv⟩ |
    ⟨hnone, -, f, v, hrun, hv⟩ <;> simp only [Move.apply, hrun]
  · simp [hsome]
  · simp [hv]
  · simp [hv, hnone]

theorem inUse_eq_error :
    (∃ f, (inUse w).1 = .error f) ↔ (Move.use.apply w).registry.current = none := by
  rcases inUse_cases w with ⟨e', hsome, hrun⟩ | ⟨-, -, e', v, -, hrun, hv⟩ |
    ⟨hnone, -, f, v, hrun, hv⟩ <;> simp only [Move.apply, hrun]
  · simp [hsome]
  · simp [hv]
  · simp [hv, hnone]

/-- A request that fails leaves the registry as it is. -/
theorem inUse_registry_of_error {f : Failure} (h : (inUse w).1 = .error f) :
    (inUse w).2.registry = w.registry := by
  rcases inUse_cases w with ⟨e', -, hrun⟩ | ⟨-, -, e', v, -, hrun, -⟩ | ⟨-, -, f, v, hrun, hv⟩ <;>
    rw [hrun] at h ⊢
  · cases h
  · exact hv

/-- Other entry points are chosen from in the same way if they are the same ones in another order. -/
theorem inUse_perm (hperm : w.registry.entryPoints.Perm points)
    (hnodup : ((candidates w.registry.entryPoints).map Prod.fst).Nodup) :
    (inUse ((Move.install points).apply w)).1 = .ok e ↔ (inUse w).1 = .ok e := by
  have hsame : ((Move.install points).apply w).registry.current = w.registry.current := rfl
  rcases hcurrent : w.registry.current with _ | e'
  · rw [inUse_eq_ok_of_none hcurrent, inUse_eq_ok_of_none (hsame.trans hcurrent), loads_perm hperm,
      chosen_perm hperm hnodup]
    rfl
  · rw [inUse_of_some hcurrent, inUse_of_some (hsame.trans hcurrent)]

/-- What is registered does not matter to a name. -/
theorem named_register (name : Text) (c : Option EngineRef) (w : World) :
    (named name ((Move.register c).apply w)).1 = (named name w).1 :=
  named_congr (w := w) (v := (Move.register c).apply w) rfl name

theorem named_eq_ok {name : Text} : (named name w).1 = .ok e ↔
    Loads w.registry.entryPoints ∧ LastOf (candidates w.registry.entryPoints) name e := by
  rcases named_cases name w with ⟨hl, e', hlast, hrun⟩ | ⟨hl, hnone, hrun⟩ | ⟨hl, f, hrun⟩ <;> rw [hrun]
  · refine ⟨?_, fun h => congrArg Except.ok (hlast.unique h.2)⟩
    rintro ⟨⟩
    exact ⟨hl, hlast⟩
  · exact iff_of_false nofun fun h => hnone _ h.2.mem rfl
  · exact iff_of_false nofun fun h => hl h.1

/-- A name that no candidate has is unknown, and that is all that asking by name can fail with where all
loads succeed or miss a module. -/
theorem named_eq_error {name : Text} (hloads : Loads w.registry.entryPoints) {f : Failure} :
    (named name w).1 = .error f ↔ f = .valueError (("Unknown engine: " : Text) ++ name) ∧
      ∀ c ∈ candidates w.registry.entryPoints, c.1 ≠ name := by
  rcases named_cases name w with ⟨-, e, hlast, hrun⟩ | ⟨-, hnone, hrun⟩ | ⟨hl, -⟩
  · rw [hrun]
    exact iff_of_false nofun fun h => h.2 _ hlast.mem rfl
  · rw [hrun]
    exact ⟨fun h => ⟨(Except.error.inj h).symm, hnone⟩, fun h => congrArg Except.error h.1.symm⟩
  · exact absurd hloads hl

/-- **The engine in use follows from the history.** Nothing is in use at first; then engines are
registered, asked for in use or by name, and other entry points are installed, in any order.

* The engine in use is the one that the history fixes, this request included: the last one that was
  registered, or else the one that was chosen at the first request that succeeded since the last reset.
  If it fixes none the request fails, and the registry stays as it is.
* A name gives the last candidate with it, whatever is in use, and the registry stays as it is. If all
  loads succeed or miss a module, a name fails exactly if no candidate has it, and with a message that says
  so.
* Entry points that are passed over might as well not be installed, and if no name is repeated the others
  may be installed in any order.
* The missing engine fails whenever it is called. -/
theorem engine_follows_from_history (hw : w.registry.current = none) (moves : List Move) :
    (∀ e, (inUse (after moves w)).1 = .ok e ↔
      Fixed w.registry.entryPoints (moves ++ [.use]) (some e)) ∧
    ((∃ f, (inUse (after moves w)).1 = .error f) ↔
      Fixed w.registry.entryPoints (moves ++ [.use]) none) ∧
    (∀ f, (inUse (after moves w)).1 = .error f →
      (inUse (after moves w)).2.registry = (after moves w).registry) ∧
    (∀ name, (named name (after moves w)).2.registry = (after moves w).registry ∧
      (∀ c, (named name (after (moves ++ [.register c]) w)).1 = (named name (after moves w)).1) ∧
      (∀ e, (named name (after moves w)).1 = .ok e ↔
        Loads (installed w.registry.entryPoints moves) ∧
          LastOf (candidates (installed w.registry.entryPoints moves)) name e) ∧
      (Loads (installed w.registry.entryPoints moves) →
        ∀ f, (named name (after moves w)).1 = .error f ↔
          f = .valueError (("Unknown engine: " : Text) ++ name) ∧
            ∀ c ∈ candidates (installed w.registry.entryPoints moves), c.1 ≠ name)) ∧
    (inUse (after (moves ++ [.install (needed (installed w.registry.entryPoints moves))]) w)).1 =
      (inUse (after moves w)).1 ∧
    (∀ name, (named name (after (moves ++ [.install (needed (installed w.registry.entryPoints moves))])
      w)).1 = (named name (after moves w)).1) ∧
    (∀ points, (installed w.registry.entryPoints moves).Perm points →
      ((candidates (installed w.registry.entryPoints moves)).map Prod.fst).Nodup →
      ∀ e, (inUse (after (moves ++ [.install points]) w)).1 = .ok e ↔
        (inUse (after moves w)).1 = .ok e) ∧
    ∀ nested order u, Session.enter nested .missing order u = (.error notInstalled, u) := by
  have hpoints := after_entryPoints moves w
  have hnext (m : Move) : after (moves ++ [m]) w = m.apply (after moves w) := after_append moves [m] w
  simp only [hnext, ← hpoints, ← current_iff hw]
  generalize after moves w = u
  exact ⟨fun e => inUse_eq_ok, inUse_eq_error, fun f => inUse_registry_of_error, fun name =>
    ⟨named_registry name u, fun c => named_register name c u, fun e => named_eq_ok, named_eq_error⟩,
    inUse_congr rfl (survey_needed _ _), named_congr (survey_needed _ _),
    fun points hperm hnodup e => inUse_perm hperm hnodup, fun _ _ _ => rfl⟩

/-- In the sample world two packages announce an engine under one name, another one announces no engine
under a name that comes before, and a third one misses a module. At the first request the engine that was
announced last is chosen, and it stays when all of them give way to a package with a lesser name; that one
is found by its name. -/
theorem engine_follows_from_history_sample :
    let points : List EntryPoint := [
      ⟨Text.ofString "mail", group, .engine⟩,
      ⟨Text.ofString "broken", group,
        .failure (.new .moduleNotFoundError ("No module named 'broken'" : String))⟩,
      ⟨Text.ofString "empty", group, .value .null⟩,
      ⟨Text.ofString "mail", group, .engine (some (.scripted (some (Text.ofString "later"))))⟩]
    let moves := [.install points, .use, .install [⟨Text.ofString "list", group, .engine⟩]]
    Sample.world.registry.current = none ∧
    (inUse (after moves Sample.world)).1 = .ok (.scripted (some (Text.ofString "later"))) ∧
    (named (Text.ofString "list") (after moves Sample.world)).1 =
      .ok (.scripted (some (Text.ofString "list"))) := by
  intro points moves
  have hopen : Sample.world.registry.current = none := rfl
  obtain ⟨huse, -, -, hfind, -⟩ := engine_follows_from_history hopen moves
  have hloads : Loads points := by
    simp only [Loads, points, List.forall_mem_cons]
    refine ⟨nofun, fun _ f hf => ?_, nofun, nofun, nofun⟩
    cases hf
    rfl
  have hchosen : Chosen points (.scripted (some (Text.ofString "later"))) :=
    .least ⟨[(Text.ofString "mail", .scripted (some (Text.ofString "mail")))], [], rfl, nofun⟩
      (by decide)
  have hquiet : Unregistered [.install points] := by simp [Unregistered]
  have hlater : Unregistered [.install [⟨Text.ofString "list", group, .engine⟩], .use] := by
    simp [Unregistered]
  have hidle : Idle Sample.world.registry.entryPoints [] [.install points] := idle_nil.append nofun
  have hfixed : Fixed Sample.world.registry.entryPoints ([] ++ [.install points] ++
      .use :: [.install [⟨Text.ofString "list", group, .engine⟩], .use])
      (some (.scripted (some (Text.ofString "later")))) :=
    .chosen .start hquiet hidle hloads hchosen hlater
  refine ⟨hopen, (huse _).2 hfixed, ?_⟩
  obtain ⟨-, -, hnamed, -⟩ := hfind (Text.ofString "list")
  refine (hnamed _).2 ⟨?_, [], [], rfl, nofun⟩
  simp [Loads, installed, moves]

end CampaignDesk.Engine
