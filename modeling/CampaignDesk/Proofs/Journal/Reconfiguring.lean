import CampaignDesk.Journal.Message
import CampaignDesk.Proofs.Journal.Handlers
import CampaignDesk.Proofs.Sample
import Mathlib.Data.List.Forall2

/-!
# Logs that are set up again and again

A log is set up, records are handed to it, time passes, and it is set up again, for the same file or another.

* `LogStep`, `Handed`: what happens to a log; a record with the request by which the log was set up last.
* `World.Ledger`: what the files hold after some requests and some records: what they held at first, and the
  line of each record in the file of its request, once. `Ledger.setUp`, `Ledger.hand`: **every step keeps the
  ledger**, `Ledger.run`: and so does every run. How arguments are put into messages plays no part.
* `records_reach_latest_file_once`: **setting the log up anew neither duplicates nor misroutes records.**
-/

namespace CampaignDesk

/-! ## Levels -/

/-- The levels known by name weigh something, but for the one that is none. -/
theorem Level.weight_eq_zero {name : Text} {l : Level} (h : named? name = some l) :
    l.weight = 0 ↔ l = unset := by
  have hknown : l ∈ unset :: all := by
    unfold named? at h
    split at h
    · cases h
      decide
    split at h
    · cases h
      decide
    split at h
    · cases h
      decide
    · exact List.mem_cons_of_mem _ (List.mem_of_find?_eq_some h)
  have hweights : ∀ l ∈ unset :: all, l.weight = 0 ↔ l = unset := by decide
  exact hweights l hknown

namespace LogRequest

/-- The level that a request names, in letters of any case. -/
def level? (q : LogRequest) : Option Level :=
  match q.level with
  | .text name => Level.named? name.upper
  | _ => none

/-- Whether a level is high enough for a request. A log without a level of its own takes warnings. -/
def admits (q : LogRequest) (level : Level) : Bool :=
  match q.level? with
  | some least => (if least = .unset then Level.warning else least).weight ≤ level.weight
  | none => false

end LogRequest

/-- A log that was set up takes the records of the desk whose level is high enough. -/
theorem Logging.accepts_eq {q : LogRequest} {g : Logging} {r : Record}
    (hlevel : threshold? q.level = .ok g.threshold) (hown : isOwn r.logger = true) :
    g.accepts r = q.admits r.level := by
  obtain ⟨least, hleast, hweight⟩ : ∃ least, q.level? = some least ∧ g.threshold = least.weight := by
    unfold threshold? at hlevel
    split at hlevel
    · next name hname =>
      unfold weight? at hlevel
      split at hlevel
      · next least hleast =>
        exact ⟨least, by rw [LogRequest.level?, hname]; exact hleast, (Except.ok.inj hlevel).symm⟩
      · split at hlevel <;> cases hlevel
    · cases hlevel
  have hzero : least.weight = 0 ↔ least = .unset := by
    unfold LogRequest.level? at hleast
    split at hleast
    · exact Level.weight_eq_zero hleast
    · cases hleast
  have hneeded : g.needed = (if least = .unset then Level.warning else least).weight := by
    rw [needed, hweight]
    by_cases hunset : least = .unset
    · rw [if_pos hunset, if_pos (hzero.2 hunset)]
    · rw [if_neg hunset, if_neg (mt hzero.1 hunset)]
  rw [accepts, hown, Bool.true_and, LogRequest.admits, hleast, hneeded]

/-! ## What happens to a log -/

/-- Something that happens to a log: it is set up, a record is handed to it with the arguments of its
message, or time passes. -/
inductive LogStep
  | setUp (q : LogRequest)
  | hand (r : Record) (args : List Value)
  | pass (now : Moment)

/-- A record that was handed to the log, with the request by which the log had been set up last and what came of
filling in its message. -/
structure Handed where
  request : LogRequest
  time : Moment
  record : Record
  message : Except Failure Text

namespace Handed

/-- What the file of the request gets: the line of the record if its level is high enough, its message took its
arguments, nothing keeps the line from being written and it has bytes; otherwise nothing. -/
def bytes (host : Host) (h : Handed) : Bytes :=
  if h.request.admits h.record.level then h.request.format.bytes host h.record h.message h.time else []

/-- What the file at a location gets: all of that where the request has its file, and nothing elsewhere. -/
def bytesAt (host : Host) (here l : Location) (h : Handed) : Bytes :=
  if h.request.place here = l then h.bytes host else []

/-- What the handlers that the request asks for do with the record, if its level is high enough. -/
def traces (host : Host) (here : Location) (h : Handed) : List LogTrace :=
  if h.request.admits h.record.level then
    LogTrace.untilPassed ((h.request.handlers here).map (·.take host h.record h.message h.time))
  else []

end Handed

namespace LogStep

variable (fill : Text → List Value → Except Failure Text)

/-- The step, with the way in which arguments are put into messages taken as given. -/
def perform : LogStep → Act Unit
  | setUp q => Act.setUpLogging q
  | hand r args => modify fun w => w.handed r (fill r.message args)
  | pass now => modify fun w => { w with now := now }

/-- The requests among some steps, in their order. -/
def requests (steps : List LogStep) : List LogRequest :=
  steps.filterMap fun
    | setUp q => some q
    | _ => none

/-- The request by which the log was set up last, at first by `q`. -/
def latest : (q : LogRequest) → List LogStep → LogRequest
  | q, [] => q
  | _, setUp q :: steps => latest q steps
  | q, hand .. :: steps | q, pass _ :: steps => latest q steps

theorem latest_mem (q : LogRequest) (steps : List LogStep) : latest q steps ∈ q :: requests steps := by
  induction steps generalizing q with
  | nil => exact List.mem_cons_self
  | cons step steps ih =>
    cases step with
    | setUp p => exact List.mem_cons_of_mem q (ih p)
    | hand r args => exact ih q
    | pass now => exact ih q

/-- The records that are handed to a log in some steps, each with the request that is the latest then. -/
def handed : LogRequest → Moment → List LogStep → List Handed
  | _, _, [] => []
  | _, now, setUp q :: steps => handed q now steps
  | q, now, hand r args :: steps => ⟨q, now, r, fill r.message args⟩ :: handed q now steps
  | q, _, pass now :: steps => handed q now steps

end LogStep

/-! ## What the files hold -/

namespace World

/-- The log is as it was set up last. -/
structure SetUpBy (w : World) (q : LogRequest) : Prop where
  handlers : w.logging.handlers = q.handlers w.store.here
  level : Logging.threshold? q.level = .ok w.logging.threshold

section SetUpBy

variable {u : World} {q : LogRequest} {r : Record} (message : Except Failure Text)

/-- What the handlers do with a record of the desk where the log was set up. -/
theorem SetUpBy.traces_eq (hq : u.SetUpBy q) (hown : Logging.isOwn r.logger = true) :
    u.logging.traces u.host r message u.now = Handed.traces u.host u.store.here ⟨q, u.now, r, message⟩ := by
  rw [Logging.traces_attended message u.now (hq.handlers.trans (q.handlers_eq _)) hown,
    Logging.accepts_eq hq.level hown, hq.handlers]
  rfl

/-- What the latest file gets of a record of the desk. -/
theorem SetUpBy.held?_handed (hq : u.SetUpBy q) (hown : Logging.isOwn r.logger = true) :
    (u.handed r message).store.held? (q.place u.store.here) =
      (u.store.held? (q.place u.store.here)).map (· ++ Handed.bytes u.host ⟨q, u.now, r, message⟩) := by
  rw [World.held?_handed_self r message (hq.handlers.trans (q.handlers_eq _)),
    Logging.accepts_eq hq.level hown]
  rfl

end SetUpBy

/-- What has become of a world `w` once the log was set up for the files at some places and some records were
handed to it: each of these files holds what it held at first, if it was there, and then what it got of the
records; no other file has changed; and nothing was shown but what the handlers show of the records. -/
structure Ledger (w : World) (places : List Location) (records : List Handed) (v : World) : Prop where
  here : v.store.here = w.store.here
  host : v.host = w.host
  files : ∀ l ∈ places, v.store.held? l =
    some ((w.store.held? l).getD [] ++ records.flatMap (Handed.bytesAt w.host w.store.here l))
  others : ∀ l ∉ places, v.store.held? l = w.store.held? l
  sent : ∀ h ∈ records, h.request.place w.store.here ∈ places
  out : v.out = w.out ++ (records.flatMap (Handed.traces w.host w.store.here)).flatMap LogTrace.out
  err : v.err = w.err ++ (records.flatMap (Handed.traces w.host w.store.here)).flatMap LogTrace.err

namespace Ledger

variable {w u v : World} {places : List Location} {records : List Handed} {q : LogRequest}
variable {l : Location} {content : Bytes} {fill : Text → List Value → Except Failure Text}

theorem refl (w : World) : w.Ledger [] [] w :=
  ⟨rfl, rfl, List.forall_mem_nil _, fun _ _ => rfl, List.forall_mem_nil _, (List.append_nil _).symm,
    (List.append_nil _).symm⟩

/-- From any world on whose latest log file is there. -/
theorem start (hfile : w.store.held? l = some content) : w.Ledger [l] [] w := by
  refine { refl w with
    files := List.forall_mem_singleton.2 ?_
    others := fun _ _ => rfl
    sent := List.forall_mem_nil _ }
  rw [hfile]
  simp

/-- Nothing went where no file was set up. -/
theorem bytesAt_eq_nil (h : w.Ledger places records v) (hl : l ∉ places) :
    records.flatMap (Handed.bytesAt w.host w.store.here l) = [] := by
  refine List.flatMap_eq_nil_iff.2 fun record hrecord => if_neg ?_
  rintro rfl
  exact hl (h.sent record hrecord)

/-- Wherever a file may be set up, it will go on with what stands there. -/
theorem getD_held? (h : w.Ledger places records v) (l : Location) : (v.store.held? l).getD [] =
    (w.store.held? l).getD [] ++ records.flatMap (Handed.bytesAt w.host w.store.here l) := by
  by_cases hl : l ∈ places
  · rw [h.files l hl, Option.getD_some]
  · rw [h.others l hl, h.bytesAt_eq_nil hl, List.append_nil]

/-- **Setting the log up keeps the ledger**, and its file is one more of those in it. -/
theorem setUp (h : w.Ledger places records u) (hset : Act.setUpLogging q u = (.ok (), v)) :
    w.Ledger (places ++ [q.place w.store.here]) records v ∧ v.SetUpBy q ∧ v.now = u.now := by
  obtain ⟨made, threshold, hmake, hlevel, -, rfl⟩ := Act.setUpLogging_eq_ok.1 hset
  have hmade (l : Location) : made.held? l = u.store.held? l := Store.held?_makeDirectories? hmake
  have hhere : made.here = u.store.here := (Store.extends_makeDirectories? hmake).here
  rw [h.here]
  refine ⟨⟨hhere.trans h.here, h.host, fun l hl => ?_, fun l hl => ?_, fun record hrecord => ?_, h.out, h.err⟩,
    ?_, rfl⟩
  · by_cases hplace : l = q.place w.store.here
    · -- a file that was set up before goes on, and so does one that was there all along
      subst hplace
      rw [Store.held?_put_file, Store.contentAt_eq, hmade, h.getD_held?]
    · have hl' : l ∈ places := (List.mem_append.1 hl).resolve_right fun hl => hplace (List.mem_singleton.1 hl)
      rw [Store.held?_put_of_ne _ hplace, hmade, h.files l hl']
  · rw [List.mem_append, List.mem_singleton, not_or] at hl
    rw [Store.held?_put_of_ne _ hl.2, hmade, h.others l hl.1]
  · exact List.mem_append_left _ (h.sent record hrecord)
  · exact ⟨congrArg q.handlers (hhere.trans h.here).symm, hlevel⟩

/-- **Handing a record to the log keeps the ledger**, and the record is one more of those in it. -/
theorem hand (h : w.Ledger places records u) (hq : u.SetUpBy q) (hplace : q.place w.store.here ∈ places)
    {r : Record} (message : Except Failure Text) (hown : Logging.isOwn r.logger = true) :
    w.Ledger places (records ++ [⟨q, u.now, r, message⟩]) (u.handed r message) ∧
      (u.handed r message).SetUpBy q := by
  have hhandlers := hq.handlers.trans (q.handlers_eq u.store.here)
  have hhere := World.handed_here r message hhandlers
  have hfile := hq.held?_handed message hown
  have hrest {l : Location} (hl : l ≠ q.place w.store.here) :
      (u.handed r message).store.held? l = u.store.held? l :=
    World.held?_handed_of_ne r message hhandlers (h.here.symm ▸ hl)
  have htraces := hq.traces_eq message hown
  rw [h.here, h.host] at hfile htraces
  refine ⟨⟨hhere.trans h.here, h.host, fun l hl => ?_, fun l hl => ?_, ?_, ?_, ?_⟩,
    ⟨hq.handlers.trans (congrArg q.handlers hhere.symm), hq.level⟩⟩
  · rw [List.flatMap_append, List.flatMap_singleton, ← List.append_assoc, Handed.bytesAt]
    by_cases hl' : l = q.place w.store.here
    · subst hl'
      rw [hfile, h.files _ hl, if_pos rfl, Option.map_some]
    · rw [hrest hl', h.files l hl, if_neg (Ne.symm hl'), List.append_nil]
  · have hne : l ≠ q.place w.store.here := fun heq => hl (heq ▸ hplace)
    rw [hrest hne, h.others l hl]
  · exact List.forall_mem_append.2 ⟨h.sent, List.forall_mem_singleton.2 hplace⟩
  · rw [World.handed, h.host, htraces, h.out, List.flatMap_append, List.flatMap_append, List.flatMap_singleton,
      List.append_assoc]
  · rw [World.handed, h.host, htraces, h.err, List.flatMap_append, List.flatMap_append, List.flatMap_singleton,
      List.append_assoc]

/-- **Every run keeps the ledger.** -/
theorem run {steps : List LogStep} (h : w.Ledger places records u) (hq : u.SetUpBy q)
    (hplace : q.place w.store.here ∈ places)
    (hown : ∀ r args, LogStep.hand r args ∈ steps → Logging.isOwn r.logger = true)
    (hrun : steps.forM (LogStep.perform fill) u = (.ok (), v)) :
    w.Ledger (places ++ (LogStep.requests steps).map fun p => p.place w.store.here)
        (records ++ LogStep.handed fill q u.now steps) v ∧
      v.SetUpBy (LogStep.latest q steps) := by
  -- the file of the latest request is among those in the ledger, so that the next record finds it
  induction steps generalizing u places records q with
  | nil =>
    cases hrun
    simpa [LogStep.requests, LogStep.handed] using ⟨h, hq⟩
  | cons step steps ih =>
    obtain ⟨⟨⟩, m, hstep, hrest⟩ := Act.bind_eq_ok.1 hrun
    have hown' r args (hr : LogStep.hand r args ∈ steps) := hown r args (List.mem_cons_of_mem _ hr)
    cases step with
    | setUp p =>
      obtain ⟨hm, hp, hnow⟩ := h.setUp hstep
      have hlast := ih hm hp (List.mem_append_right _ (List.mem_singleton_self _)) hown' hrest
      rw [hnow, List.append_assoc] at hlast
      exact hlast
    | hand r args =>
      cases hstep
      obtain ⟨hm, hq'⟩ := h.hand hq hplace (fill r.message args) (hown r args List.mem_cons_self)
      have hlast := ih hm hq' hplace hown' hrest
      rw [List.append_assoc] at hlast
      exact hlast
    | pass now =>
      cases hstep
      have hm : w.Ledger places records { u with now := now } := { h with }
      exact ih hm ⟨hq.handlers, hq.level⟩ hplace hown' hrest

/-- What has been shown was shown of one record after the other, and nothing was shown of those whose level was
too low. -/
theorem shown (h : w.Ledger places records v) : ∃ shown : List (Text × Text),
    v.out = w.out ++ shown.flatMap Prod.fst ∧ v.err = w.err ++ shown.flatMap Prod.snd ∧
    List.Forall₂ (fun record t => record.request.admits record.record.level = false → t = ([], []))
      records shown := by
  refine ⟨records.map fun record => ((record.traces w.host w.store.here).flatMap LogTrace.out,
    (record.traces w.host w.store.here).flatMap LogTrace.err), ?_, ?_, ?_⟩
  · rw [h.out, List.flatMap_assoc, List.flatMap_map]
  · rw [h.err, List.flatMap_assoc, List.flatMap_map]
  · refine List.forall₂_map_right_iff.2 (List.forall₂_same.2 fun record _ hlight => ?_)
    rw [Handed.traces, hlight]
    rfl

/-- What a file held at first is in front of what it holds now. -/
theorem kept (h : w.Ledger places records v) (hl : w.store.held? l = some content) :
    ∃ more, v.store.held? l = some (content ++ more) := by
  by_cases hplace : l ∈ places
  · exact ⟨_, by rw [h.files l hplace, hl, Option.getD_some]⟩
  · exact ⟨[], by rw [h.others l hplace, hl, List.append_nil]⟩

end Ledger

end World

open LogStep

/-- **Setting the log up anew neither duplicates nor misroutes records.** Let a log be set up, and again as
often as one likes, with records of the desk handed to it in between, and let every setting up succeed. However
arguments are put into messages, at every point of the run, seen as the end of its past and the beginning of its
future:

* The log has one handler for the file that was asked for last, and one for the console exactly if that was
  asked for too.
* Each file that has been set up holds what it held at first and then the lines of the records that were
  handed to the log when it was the latest file: each of them once if its level was high enough for the
  latest request, its message took its arguments and its line could be written and had bytes, and nothing
  otherwise.
* No other file has changed, and what has been shown was shown of one record after the other: nothing of those
  whose level was too low.
* Whatever a file holds is kept in front of what will be added to it. -/
theorem records_reach_latest_file_once (fill : Text → List Value → Except Failure Text) (q : LogRequest)
    (steps : List LogStep) (w v : World)
    (hown : ∀ r args, hand r args ∈ steps → Logging.isOwn r.logger = true)
    (hrun : (setUp q :: steps).forM (perform fill) w = (.ok (), v)) :
    ∀ past future, steps = past ++ future → ∃ u,
      (setUp q :: past).forM (perform fill) w = (.ok (), u) ∧ future.forM (perform fill) u = (.ok (), v) ∧
      u.logging.handlers = (latest q past).handlers w.store.here ∧
      (∀ l ∈ (q :: requests past).map (·.place w.store.here), u.store.held? l =
        some ((w.store.held? l).getD [] ++
          (handed fill q w.now past).flatMap (Handed.bytesAt w.host w.store.here l))) ∧
      (∀ l ∉ (q :: requests past).map (·.place w.store.here), u.store.held? l = w.store.held? l) ∧
      (∃ shown : List (Text × Text),
        u.out = w.out ++ shown.flatMap Prod.fst ∧ u.err = w.err ++ shown.flatMap Prod.snd ∧
        List.Forall₂ (fun h t => h.request.admits h.record.level = false → t = ([], []))
          (handed fill q w.now past) shown) ∧
      ∀ l content, u.store.held? l = some content → ∃ more, v.store.held? l = some (content ++ more) := by
  rintro past future rfl
  obtain ⟨⟨⟩, first, hfirst, hrest⟩ := Act.bind_eq_ok.1 hrun
  obtain ⟨u, hpast, hfuture⟩ := Act.forM_append_eq_ok.1 hrest
  obtain ⟨hledger, hq, hnow⟩ := (World.Ledger.refl w).setUp hfirst
  obtain ⟨hu, hlatest⟩ := hledger.run hq (List.mem_singleton_self _)
    (fun r args hr => hown r args (List.mem_append_left _ hr)) hpast
  rw [hnow] at hu
  refine ⟨u, Act.bind_eq_ok.2 ⟨(), first, hfirst, hpast⟩, hfuture, ?_, hu.files, hu.others, hu.shown, ?_⟩
  · rw [hlatest.handlers, hu.here]
  · -- what lies ahead starts a ledger of its own
    intro l content hl
    have hfile := hu.files ((latest q past).place w.store.here)
      (List.mem_map_of_mem (f := (·.place w.store.here)) (latest_mem q past))
    have hv := ((World.Ledger.start hfile).run hlatest (by rw [hu.here]; exact List.mem_singleton_self _)
      (fun r args hr => hown r args (List.mem_append_right _ hr)) hfuture).1
    exact hv.kept hl

namespace Sample

/-- A log in lines of JSON, from the least level on. -/
def jsonRequest : LogRequest := ⟨.ofText "desk.log", .ofString "debug", .structured, false⟩

/-- A log in plain lines, from warnings on, that is shown on the console. -/
def plainRequest : LogRequest := ⟨.ofText "other.log", .ofString "Warn", .plain, true⟩

/-- A record of the desk. -/
def remark (level : Level) (message : Text) : Record := ⟨level, "mailgrid_ui.x", message, none, none⟩

/-- The log is set up for another file, and for the first one again. While it goes to the other file one
record is too light, and the message of one does not take its arguments. -/
def relogged : List LogStep :=
  [.hand (remark .debug "one") [], .setUp plainRequest, .hand (remark .info "light") [],
    .hand (remark .error "%s") [.ofString "two"], .hand (remark .error "%d") [.ofString "two"],
    .setUp jsonRequest, .hand (remark .info "three") []]

/-- Every other line is in the file that was the latest then, once. -/
theorem records_reach_latest_file_once_sample :
    (∀ r args, hand r args ∈ relogged → Logging.isOwn r.logger = true) ∧
    ∃ v, (setUp jsonRequest :: relogged).forM (perform Message.fill?) world = (.ok (), v) ∧
      v.logging.handlers = [.file ⟨some ["tmp", "desk.log"], .structured⟩] ∧
      v.store.held? ["tmp", "desk.log"] = some (Utf8.ascii
        (((remark .debug "one").structuredLine world.now ++ ("\n" : Text)) ++
          ((remark .info "three").structuredLine world.now ++ ("\n" : Text)))) ∧
      v.store.held? ["tmp", "other.log"] =
        some (Utf8.ascii "2024-01-01 00:00:00,000 - mailgrid_ui.x - ERROR - two\n") ∧
      v.store.held? ["tmp", "mail.json"] = some [] := by
  have hown : ∀ r args, hand r args ∈ relogged → Logging.isOwn r.logger = true := by
    intro r args hr
    simp only [relogged, List.mem_cons, hand.injEq, reduceCtorEq, false_or, List.not_mem_nil, or_false] at hr
    rcases hr with ⟨rfl, -⟩ | ⟨rfl, -⟩ | ⟨rfl, -⟩ | ⟨rfl, -⟩ | ⟨rfl, -⟩ <;> decide
  have hrun : (setUp jsonRequest :: relogged).forM (perform Message.fill?) world =
      (.ok (), ((setUp jsonRequest :: relogged).forM (perform Message.fill?) world).2) :=
    ends_of_toOption (by decide +kernel)
  obtain ⟨v, hv, -, hhandlers, hfiles, hothers, -, -⟩ :=
    records_reach_latest_file_once Message.fill? jsonRequest relogged world _ hown hrun relogged []
      (List.append_nil _).symm
  refine ⟨hown, v, hv, hhandlers.trans (by decide +kernel), ?_, ?_, ?_⟩
  · exact (hfiles _ (by decide +kernel)).trans (by decide +kernel)
  · exact (hfiles _ (by decide +kernel)).trans (by decide +kernel)
  · exact (hothers _ (by decide +kernel)).trans (by decide +kernel)

end Sample

end CampaignDesk
