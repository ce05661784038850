import Mathlib.Data.List.Induction
import Mathlib.Data.List.Lex
import Mathlib.Order.Fin.Basic
import CampaignDesk.Engine.Access
import CampaignDesk.Proofs.Act

/-!
# Which engine is chosen

Announcements are looked through once, from first to last. What is chosen from them can be said without
the search.

* `Registry.candidates`: the engines that are announced, with their names. `Registry.Loads`: no load fails
  for another reason than a missing module.
* `survey_cases`: **the search finds the candidates, or fails if a load does.**
  `surveyFrom_needed`: what it passes over might as well not be there.
* `LastOf`: an engine is the last candidate with its name. `Registry.Chosen`: **the last candidate with the
  least name, or the missing engine if there is no candidate.** `Chosen.unique`, `chosen_perm`.
* `Engine.inUse_cases`, `Engine.named_cases`: what asking for an engine comes to. `Engine.inUse_congr`,
  `Engine.named_congr`: what it depends on.
-/

namespace CampaignDesk

open Act

/-- Coming before is the order of texts as lists. -/
theorem Text.isBefore_iff {s t : Text} : Text.isBefore s t = true ↔ s < t := by
  induction s generalizing t with
  | nil => cases t <;> simp [isBefore]
  | cons a s ih =>
    cases t with
    | nil => simp [isBefore]
    | cons b t => simp [isBefore, ih, List.cons_lt_cons_iff]

/-- A list with one more entry at its end is split at that entry or before. -/
theorem split_append_singleton {α : Type} {xs before after : List α} {x y : α}
    (h : xs ++ [x] = before ++ y :: after) : (before = xs ∧ y = x ∧ after = []) ∨
      ∃ after', after = after' ++ [x] ∧ xs = before ++ y :: after' := by
  rcases List.eq_nil_or_concat after with rfl | ⟨after', z, rfl⟩
  · obtain ⟨rfl, hy⟩ := List.append_inj' h rfl
    exact .inl ⟨rfl, (List.singleton_inj.1 hy).symm, rfl⟩
  · have hsplit : xs ++ [x] = (before ++ y :: after') ++ [z] := by simpa using h
    obtain ⟨hxs, hz⟩ := List.append_inj' hsplit rfl
    exact .inr ⟨after', by rw [List.concat_eq_append, List.singleton_inj.1 hz], hxs⟩

namespace Registry

variable {points points' : List EntryPoint} {cs : Catalogue} {name : Text} {e e' : EngineRef}

/-! ## Candidates -/

/-- The engine that an entry point announces under its name, if it is one of the group. -/
def announced? (p : EntryPoint) : Option (Text × EngineRef) :=
  if p.group = group then
    match p.loaded with
    | .engine e => some (p.name, e.getD (.scripted (some p.name)))
    | .failure _ | .value _ => none
  else none

/-- The engines that are announced, in the order of their entry points. -/
def candidates (points : List EntryPoint) : Catalogue := points.filterMap announced?

/-- Every load of the group succeeds or fails for want of a module. -/
def Loads (points : List EntryPoint) : Prop :=
  ∀ p ∈ points, p.group = group → ∀ f, p.loaded = .failure f → f.kind.isA .importError = true

/-- The catalogue of some candidates. -/
def gathered (cs : Catalogue) : Catalogue := cs.foldl (fun cat c => enlist cat c.1 c.2) []

/-- Whether an entry point of the group is passed over: it misses a module, or is no engine. -/
def passedOver (p : EntryPoint) : Bool :=
  match p.loaded with
  | .engine _ => false
  | .failure f => f.kind.isA .importError
  | .value _ => true

theorem candidates_cons (p : EntryPoint) (points : List EntryPoint) :
    candidates (p :: points) = match announced? p with
      | none => candidates points
      | some c => c :: candidates points := by
  rw [candidates, List.filterMap_cons]
  cases announced? p <;> rfl

theorem loads_cons {p : EntryPoint} : Loads (p :: points) ↔
    (p.group = group → ∀ f, p.loaded = .failure f → f.kind.isA .importError = true) ∧
      Loads points := List.forall_mem_cons

theorem loads_filter : Loads (points.filter fun p => p.group = group) ↔ Loads points := by
  unfold Loads
  simp only [List.mem_filter, decide_eq_true_eq]
  exact ⟨fun h p hp hgroup => h p ⟨hp, hgroup⟩ hgroup, fun h p hp => h p hp.1⟩

theorem loads_perm (h : points.Perm points') : Loads points ↔ Loads points' := by
  unfold Loads
  simp only [h.mem_iff]

theorem candidates_filter :
    candidates (points.filter fun p => p.group = group) = candidates points := by
  unfold candidates
  rw [List.filterMap_filter]
  refine List.filterMap_congr fun p _ => ?_
  by_cases hgroup : p.group = group <;> simp [announced?, hgroup]

/-- The entry points that are not passed over. -/
def needed (points : List EntryPoint) : List EntryPoint := points.filter fun p => !passedOver p

/-- A search finds the candidates, or it fails where a load does. -/
theorem surveyFrom_cases (hgroup : ∀ p ∈ points, p.group = group) (cat : Catalogue) :
    (Loads points ∧ (surveyFrom cat points).found =
      .ok ((candidates points).foldl (fun cat c => enlist cat c.1 c.2) cat)) ∨
    (¬ Loads points ∧ ∃ f, (surveyFrom cat points).found = .error f) := by
  induction points generalizing cat with
  | nil => exact .inl ⟨nofun, rfl⟩
  | cons p rest ih =>
    have hp : p.group = group := hgroup p List.mem_cons_self
    have ih := fun cat => ih (fun q hq => hgroup q (List.mem_cons_of_mem p hq)) cat
    rw [loads_cons, candidates_cons]
    unfold surveyFrom
    cases hloaded : p.loaded with
    | engine e => simpa [announced?, hp, hloaded] using ih _
    | value v => simpa [announced?, hp, hloaded] using ih cat
    | failure f =>
      cases hf : f.kind.isA .importError with
      | true => simpa [announced?, hp, hloaded, hf] using ih cat
      | false => exact .inr ⟨fun h => by simp [h.1 hp f rfl] at hf, f, by simp [hf]⟩

/-- **The search finds the candidates, or fails if a load does.** -/
theorem survey_cases (r : Registry) :
    (Loads r.entryPoints ∧ r.survey.found = .ok (gathered (candidates r.entryPoints))) ∨
    (¬ Loads r.entryPoints ∧ ∃ f, r.survey.found = .error f) := by
  have hgroup : ∀ p ∈ r.entryPoints.filter (fun p => p.group = group), p.group = group :=
    fun p hp => decide_eq_true_eq.mp (List.mem_filter.1 hp).2
  have hcases := surveyFrom_cases hgroup []
  rwa [loads_filter, candidates_filter] at hcases

/-- **What is passed over might as well not be there.** -/
theorem surveyFrom_needed (cat : Catalogue) (points : List EntryPoint) :
    (surveyFrom cat (needed points)).found = (surveyFrom cat points).found := by
  unfold needed
  induction points generalizing cat with
  | nil => rfl
  | cons p rest ih =>
    rw [List.filter_cons]
    cases hloaded : p.loaded with
    | engine e =>
      have hkept : passedOver p = false := by rw [passedOver, hloaded]
      simp [hkept, surveyFrom, hloaded, ih]
    | value v =>
      have hpassed : passedOver p = true := by rw [passedOver, hloaded]
      simp [hpassed, surveyFrom, hloaded, ih]
    | failure f =>
      have hpassed : passedOver p = f.kind.isA .importError := by rw [passedOver, hloaded]
      cases hf : f.kind.isA .importError <;> simp [hpassed, surveyFrom, hloaded, hf, ih]

theorem survey_needed (current : Option EngineRef) (points : List EntryPoint) :
    (survey ⟨current, needed points⟩).found = (survey ⟨current, points⟩).found := by
  unfold survey
  rw [← surveyFrom_needed [] (points.filter fun p => p.group = group), needed, needed,
    List.filter_filter, List.filter_filter]
  simp only [Bool.and_comm]

/-! ## Catalogues -/

/-- The engine is the last of the candidates with its name. -/
def LastOf (cs : Catalogue) (name : Text) (e : EngineRef) : Prop :=
  ∃ before after, cs = before ++ (name, e) :: after ∧ ∀ c ∈ after, c.1 ≠ name

theorem LastOf.mem (h : LastOf cs name e) : (name, e) ∈ cs := by
  obtain ⟨before, after, rfl, -⟩ := h
  exact List.mem_append_right before List.mem_cons_self

theorem lastOf_append {c : Text × EngineRef} :
    LastOf (cs ++ [c]) name e ↔ c = (name, e) ∨ c.1 ≠ name ∧ LastOf cs name e := by
  constructor
  · rintro ⟨before, after, hcs, hafter⟩
    rcases split_append_singleton hcs with ⟨-, hc, -⟩ | ⟨after, rfl, rfl⟩
    · exact .inl hc.symm
    · exact .inr ⟨hafter c (by simp), before, after, rfl, fun a ha => hafter a (by simp [ha])⟩
  · rintro (rfl | ⟨hne, before, after, rfl, hafter⟩)
    · exact ⟨cs, [], rfl, nofun⟩
    · refine ⟨before, after ++ [c], by simp, fun a ha => ?_⟩
      rcases List.mem_append.1 ha with ha | ha
      · exact hafter a ha
      · exact List.mem_singleton.1 ha ▸ hne

theorem find?_enlist (cat : Catalogue) (n : Text) (e : EngineRef) (m : Text) :
    find? (enlist cat n e) m = if n = m then some e else find? cat m := by
  induction cat with
  | nil => by_cases h : n = m <;> simp [enlist, find?, h]
  | cons c cat ih =>
    unfold find? at ih ⊢
    unfold enlist
    by_cases hc : c.1 = n
    · by_cases h : n = m <;> simp [hc, h]
    · by_cases h : c.1 = m
      · have hne : ¬ m = n := fun hmn => hc (h.trans hmn)
        simp [h, hne, Ne.symm hne]
      · simpa [hc, h] using ih

theorem gathered_append (cs : Catalogue) (c : Text × EngineRef) :
    gathered (cs ++ [c]) = enlist (gathered cs) c.1 c.2 := by
  simp [gathered, List.foldl_append]

/-- **A name gives the last candidate that has it.** -/
theorem find?_gathered : find? (gathered cs) name = some e ↔ LastOf cs name e := by
  induction cs using List.reverseRecOn with
  | nil => exact iff_of_false nofun fun h => nomatch h.mem
  | append_singleton cs c ih =>
    obtain ⟨n, d⟩ := c
    rw [gathered_append, find?_enlist, lastOf_append]
    by_cases hn : n = name <;> simp [hn, ih]

theorem find?_eq_none {cat : Catalogue} : find? cat name = none ↔ ∀ c ∈ cat, c.1 ≠ name := by
  simp [find?]

theorem find?_gathered_eq_none : find? (gathered cs) name = none ↔ ∀ c ∈ cs, c.1 ≠ name := by
  induction cs using List.reverseRecOn with
  | nil => exact iff_of_true rfl nofun
  | append_singleton cs c ih =>
    rw [gathered_append, find?_enlist]
    by_cases hn : c.1 = name <;> simp [hn, ih, or_imp, forall_and]

/-! ## The least name -/

theorem least?_eq_none {names : List Text} : least? names = none ↔ names = [] := by
  cases names with
  | nil => exact iff_of_true rfl rfl
  | cons n rest => cases h : least? rest <;> simp [least?, h]

theorem least?_spec {names : List Text} (h : least? names = some name) :
    name ∈ names ∧ ∀ n ∈ names, name ≤ n := by
  induction names generalizing name with
  | nil => cases h
  | cons n rest ih =>
    rcases hrest : least? rest with _ | m <;> simp only [least?, hrest, Option.some.injEq] at h
    · subst h
      rw [least?_eq_none.1 hrest]
      simp
    obtain ⟨hmem, hle⟩ := ih hrest
    split at h
    next hbefore =>
      subst h
      rw [Text.isBefore_iff] at hbefore
      exact ⟨List.mem_cons_of_mem n hmem, List.forall_mem_cons.2 ⟨hbefore.le, hle⟩⟩
    next hbefore =>
      subst h
      rw [Text.isBefore_iff, not_lt] at hbefore
      exact ⟨List.mem_cons_self, List.forall_mem_cons.2 ⟨le_rfl, fun k hk => hbefore.trans (hle k hk)⟩⟩

/-! ## The choice -/

/-- The engine that is chosen from some entry points: of the candidates with the least name the last, or
the missing engine if there is no candidate. -/
inductive Chosen (points : List EntryPoint) : EngineRef → Prop
  | least {name : Text} {e : EngineRef} : LastOf (candidates points) name e →
    (∀ c ∈ candidates points, Text.isBefore c.1 name = false) → Chosen points e
  | missing : candidates points = [] → Chosen points .missing

theorem LastOf.unique (h : LastOf cs name e) (h' : LastOf cs name e') : e = e' :=
  Option.some.inj ((find?_gathered.2 h).symm.trans (find?_gathered.2 h'))

/-- **One engine only is chosen.** -/
theorem Chosen.unique (h : Chosen points e) (h' : Chosen points e') : e = e' := by
  rcases h with ⟨hlast, hleast⟩ | hnone <;> rcases h' with ⟨hlast', hleast'⟩ | hnone'
  · -- neither name comes before the other, so they are the same
    have hbefore := hleast _ hlast'.mem
    have hbefore' := hleast' _ hlast.mem
    rw [Bool.eq_false_iff, ne_eq, Text.isBefore_iff, not_lt] at hbefore hbefore'
    cases le_antisymm hbefore hbefore'
    exact hlast.unique hlast'
  · rw [hnone'] at hlast
    exact nomatch hlast.mem
  · rw [hnone] at hlast'
    exact nomatch hlast'.mem
  · rfl

/-- **The catalogue of the candidates gives the engine that is chosen.** -/
theorem first?_gathered (points : List EntryPoint) :
    (first? (gathered (candidates points)) = none ∧ Chosen points .missing) ∨
    ∃ name e, first? (gathered (candidates points)) = some (name, e) ∧ Chosen points e := by
  unfold first?
  have hnames (n : Text) : n ∈ (gathered (candidates points)).map Prod.fst ↔
      ∃ c ∈ candidates points, c.1 = n := by
    have hnone : (∀ c ∈ gathered (candidates points), c.1 ≠ n) ↔ ∀ c ∈ candidates points, c.1 ≠ n :=
      find?_eq_none.symm.trans find?_gathered_eq_none
    simpa using not_congr hnone
  rcases hleast : least? ((gathered (candidates points)).map Prod.fst) with _ | name
  · refine .inl ⟨rfl, .missing (List.eq_nil_iff_forall_not_mem.2 fun c hc => ?_)⟩
    have hmem := (hnames c.1).2 ⟨c, hc, rfl⟩
    rw [least?_eq_none.1 hleast] at hmem
    cases hmem
  obtain ⟨hmem, hle⟩ := least?_spec hleast
  -- the least name comes from the catalogue, so it is found there
  rcases hfind : find? (gathered (candidates points)) name with _ | e
  · obtain ⟨c, hc, hname⟩ := (hnames name).1 hmem
    exact absurd hname (find?_gathered_eq_none.1 hfind c hc)
  · refine .inr ⟨name, e, by simp [hfind], .least (find?_gathered.1 hfind) fun c hc => ?_⟩
    rw [Bool.eq_false_iff, ne_eq, Text.isBefore_iff, not_lt]
    exact hle _ ((hnames c.1).2 ⟨c, hc, rfl⟩)

/-- An engine is the last with its name if it is the only one. -/
theorem lastOf_of_nodup (hnodup : (cs.map Prod.fst).Nodup) : LastOf cs name e ↔ (name, e) ∈ cs := by
  refine ⟨LastOf.mem, fun h => ?_⟩
  obtain ⟨before, after, rfl⟩ := List.append_of_mem h
  refine ⟨before, after, rfl, fun c hc hname => ?_⟩
  simp only [List.map_append, List.map_cons, List.nodup_append, List.nodup_cons] at hnodup
  exact hnodup.2.1.1 (hname ▸ List.mem_map_of_mem hc)

/-- **If no name is repeated, the choice does not depend on the order.** -/
theorem chosen_perm (hperm : points.Perm points')
    (hnodup : ((candidates points).map Prod.fst).Nodup) : Chosen points e ↔ Chosen points' e := by
  have hcandidates : (candidates points).Perm (candidates points') := hperm.filterMap _
  have hnodup' : ((candidates points').map Prod.fst).Nodup :=
    (hcandidates.map Prod.fst).nodup_iff.1 hnodup
  constructor
  all_goals rintro (⟨hlast, hleast⟩ | hnone)
  · rw [lastOf_of_nodup hnodup, hcandidates.mem_iff, ← lastOf_of_nodup hnodup'] at hlast
    exact .least hlast fun c hc => hleast c (hcandidates.mem_iff.2 hc)
  · exact .missing (List.nil_perm.1 (hnone ▸ hcandidates))
  · rw [lastOf_of_nodup hnodup', ← hcandidates.mem_iff, ← lastOf_of_nodup hnodup] at hlast
    exact .least hlast fun c hc => hleast c (hcandidates.mem_iff.1 hc)
  · exact .missing (List.perm_nil.1 (hnone ▸ hcandidates))

end Registry

/-! ## Asking for an engine -/

namespace Engine

open Registry

variable {w : World}

/-- What is noted of each item neither fails nor changes the registry, and what comes after it counts. -/
theorem noted_settle {ι α : Type} {noted : ι → Act PUnit}
    (h : ∀ i u, (noted i u).1 = .ok ⟨⟩ ∧ (noted i u).2.registry = u.registry) (items : List ι)
    (outcome : Except Failure α) (w : World) :
    ∃ v, (items.forM noted >>= fun _ => Act.settle outcome) w = (outcome, v) ∧
      v.registry = w.registry := by
  induction items generalizing w with
  | nil => exact ⟨w, rfl, rfl⟩
  | cons i items ih =>
    obtain ⟨hended, hregistry⟩ := h i w
    obtain ⟨v, hrun, hrest⟩ := ih (noted i w).2
    refine ⟨v, ?_, hrest.trans hregistry⟩
    have hcons : (i :: items).forM noted = noted i >>= fun _ => items.forM noted := rfl
    rw [hcons, bind_assoc, bind_ok (Prod.ext hended rfl)]
    exact hrun

/-- A search leaves the registry as it is, and ends as the survey does. -/
theorem discover_apply (w : World) :
    ∃ v, discover w = (w.registry.survey.found, v) ∧ v.registry = w.registry := by
  rw [discover, bind_apply, get_apply]
  exact noted_settle (fun _ _ => ⟨rfl, rfl⟩) _ _ w

/-- What is settled on with a catalogue at hand. -/
def choose (found : Catalogue) : Act EngineRef := do
  match first? found with
  | some (name, engine) =>
    Act.log .debug logger (("Using execution engine: " : Text) ++ name)
    register (some engine)
    return engine
  | none =>
    register (some .missing)
    return .missing

theorem inUse_of_some {e : EngineRef} (h : w.registry.current = some e) : inUse w = (.ok e, w) := by
  rw [inUse, bind_apply, get_apply]
  simp only [h, pure_apply]

theorem inUse_of_none (h : w.registry.current = none) : inUse w = (discover >>= choose) w := by
  rw [inUse, bind_apply, get_apply]
  simp only [h]
  rfl

theorem choose_apply (found : Catalogue) (w : World) :
    ∃ v, choose found w = (.ok (((first? found).map Prod.snd).getD .missing), v) ∧ v.registry =
      { w.registry with current := some (((first? found).map Prod.snd).getD .missing) } := by
  unfold choose
  rcases first? found with _ | ⟨name, e⟩ <;> exact ⟨_, rfl, rfl⟩

/-- **What asking for the engine in use comes to.** It is the one that was settled on, or else the one
that is chosen now, which is settled on with that; if a load fails nothing is settled on. -/
theorem inUse_cases (w : World) :
    (∃ e, w.registry.current = some e ∧ inUse w = (.ok e, w)) ∨
    (w.registry.current = none ∧ Loads w.registry.entryPoints ∧ ∃ e v,
      Chosen w.registry.entryPoints e ∧ inUse w = (.ok e, v) ∧
      v.registry = { w.registry with current := some e }) ∨
    (w.registry.current = none ∧ ¬ Loads w.registry.entryPoints ∧ ∃ f v,
      inUse w = (.error f, v) ∧ v.registry = w.registry) := by
  rcases hcurrent : w.registry.current with _ | e
  · refine .inr ?_
    obtain ⟨v, hdiscover, hregistry⟩ := discover_apply w
    rw [inUse_of_none hcurrent]
    rcases survey_cases w.registry with ⟨hloads, hfound⟩ | ⟨hfails, f, hfound⟩ <;>
      rw [hfound] at hdiscover
    · obtain ⟨u, hchoose, hsettled⟩ := choose_apply (gathered (candidates w.registry.entryPoints)) v
      rw [hregistry] at hsettled
      refine .inl ⟨rfl, hloads, _, u, ?_, (bind_ok hdiscover).trans hchoose, hsettled⟩
      rcases first?_gathered w.registry.entryPoints with
        ⟨hfirst, hchosen⟩ | ⟨name, e, hfirst, hchosen⟩ <;>
      · rw [hfirst]
        exact hchosen
    · exact .inr ⟨rfl, hfails, f, v, bind_error hdiscover, hregistry⟩
  · exact .inl ⟨e, rfl, inUse_of_some hcurrent⟩

/-- What is chosen at a request that finds nothing settled on. -/
theorem inUse_eq_ok_of_none {e : EngineRef} (h : w.registry.current = none) :
    (inUse w).1 = .ok e ↔ Loads w.registry.entryPoints ∧ Chosen w.registry.entryPoints e := by
  rcases inUse_cases w with ⟨e', hsome, -⟩ | ⟨-, hloads, e', v, hchosen, hrun, -⟩ |
    ⟨-, hfails, f, v, hrun, -⟩
  · cases h.symm.trans hsome
  · rw [hrun]
    refine ⟨?_, fun h => congrArg Except.ok (hchosen.unique h.2)⟩
    rintro ⟨⟩
    exact ⟨hloads, hchosen⟩
  · rw [hrun]
    exact iff_of_false nofun fun h => hfails h.1

/-- The engine in use depends on the one that was settled on and on what a search finds. -/
theorem inUse_congr {w v : World} (hcurrent : v.registry.current = w.registry.current)
    (hfound : v.registry.survey.found = w.registry.survey.found) : (inUse v).1 = (inUse w).1 := by
  rcases h : w.registry.current with _ | e
  · rw [h] at hcurrent
    obtain ⟨w', hsearched, -⟩ := discover_apply w
    obtain ⟨v', hsearched', -⟩ := discover_apply v
    rw [inUse_of_none h, inUse_of_none hcurrent, bind_apply, bind_apply, hsearched, hsearched', hfound]
    rcases w.registry.survey.found with f | found
    · rfl
    · obtain ⟨_, hchoose, -⟩ := choose_apply found w'
      obtain ⟨_, hchoose', -⟩ := choose_apply found v'
      simp only [hchoose, hchoose']
  · rw [inUse_of_some h, inUse_of_some (hcurrent.trans h)]

/-- An engine is looked up by its name in what a search finds. -/
theorem named_apply (name : Text) (w : World) : ∃ v, v.registry = w.registry ∧
    named name w = (w.registry.survey.found.bind (fun found =>
      match find? found name with
      | some e => .ok e
      | none => .error (.valueError (("Unknown engine: " : Text) ++ name))), v) := by
  obtain ⟨v, hdiscover, hregistry⟩ := discover_apply w
  refine ⟨v, hregistry, ?_⟩
  rw [named, bind_apply, hdiscover]
  rcases w.registry.survey.found with f | found
  · rfl
  · simp only [Except.bind]
    rcases find? found name with _ | e <;> rfl

/-- **What asking for an engine by name comes to**: the last candidate with the name, unless there is none
or a load fails. -/
theorem named_cases (name : Text) (w : World) :
    (Loads w.registry.entryPoints ∧ ∃ e, LastOf (candidates w.registry.entryPoints) name e ∧
      (named name w).1 = .ok e) ∨
    (Loads w.registry.entryPoints ∧ (∀ c ∈ candidates w.registry.entryPoints, c.1 ≠ name) ∧
      (named name w).1 = .error (.valueError (("Unknown engine: " : Text) ++ name))) ∨
    (¬ Loads w.registry.entryPoints ∧ ∃ f, (named name w).1 = .error f) := by
  obtain ⟨v, -, hnamed⟩ := named_apply name w
  rcases survey_cases w.registry with ⟨hloads, hfound⟩ | ⟨hfails, f, hfound⟩ <;>
    rw [hnamed, hfound]
  · rcases hfind : find? (gathered (candidates w.registry.entryPoints)) name with _ | e
    · exact .inr (.inl ⟨hloads, find?_gathered_eq_none.1 hfind, by simp only [Except.bind, hfind]⟩)
    · exact .inl ⟨hloads, e, find?_gathered.1 hfind, by simp only [Except.bind, hfind]⟩
  · exact .inr (.inr ⟨hfails, f, rfl⟩)

/-- Asking for an engine by name leaves the registry as it is. -/
theorem named_registry (name : Text) (w : World) : (named name w).2.registry = w.registry := by
  obtain ⟨v, hregistry, hnamed⟩ := named_apply name w
  rw [hnamed, hregistry]

/-- What a name gives depends on what a search finds. -/
theorem named_congr {w v : World} (hfound : v.registry.survey.found = w.registry.survey.found)
    (name : Text) : (named name v).1 = (named name w).1 := by
  obtain ⟨_, -, hnamed⟩ := named_apply name w
  obtain ⟨_, -, hnamed'⟩ := named_apply name v
  rw [hnamed, hnamed', hfound]

end Engine

end CampaignDesk
