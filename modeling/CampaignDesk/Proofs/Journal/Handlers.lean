import CampaignDesk.Proofs.Json.Nesting
import CampaignDesk.Proofs.Store.Footprint
import CampaignDesk.Proofs.Store.Growth

/-!
# A log that was set up

* `Act.setUpLogging_eq_ok`: **what setting up the log comes to**; the handlers from before play no part in it.
* `LogFormat.bytes`: what a file gets of a record. `World.held?_handed_self`: **where one file has been set up,
  a record adds these bytes to it once**, and changes no other file.
* `Record.structuredLine?_eq_ok`: which records have a line of JSON. `Logging.isPassed_remark`: **no failure of
  a handler goes to whoever logged a record of the desk itself.**
-/

namespace CampaignDesk

namespace LogRequest

/-- Where the log file of a request is, seen from a working directory. -/
def place (q : LogRequest) (here : Location) : Location :=
  Store.placeOf here (Path.normalize q.path.toText)

/-- The handlers that a request asks for: one for its file, and one for the console if it asks for that. -/
def handlers (q : LogRequest) (here : Location) : List LogHandler :=
  .file ⟨some (q.place here), q.format⟩ ::
    if q.console then [.console (if q.format = .pretty then .drawn else .lines)] else []

theorem handlers_eq (q : LogRequest) (here : Location) : q.handlers here =
    .file ⟨some (q.place here), q.format⟩ :: (Logging.console? q).toList.map .console := by
  unfold handlers Logging.console?
  cases q.console
  · rfl
  · simp only [Bool.not_true, Bool.false_eq_true, if_true, if_false]
    split <;> rfl

/-- The log is drawn on the console only if pretty lines are to be shown there. -/
theorem isDrawn_handlers {q : LogRequest} {here : Location} {threshold : Nat}
    (h : ¬ (q.console = true ∧ q.format = .pretty)) :
    Logging.isDrawn ⟨threshold, q.handlers here⟩ = false := by
  unfold Logging.isDrawn handlers
  by_cases hconsole : q.console = true
  · have hformat : q.format ≠ .pretty := fun hpretty => h ⟨hconsole, hpretty⟩
    simp [hconsole, hformat]
  · simp [hconsole]

end LogRequest

/-- **The log is set up exactly if the directory of its file can be made, the level is known and the file can
be opened.** The file keeps what it held, and the handlers are those asked for, whatever they were before. -/
theorem Act.setUpLogging_eq_ok {q : LogRequest} {w v : World} :
    setUpLogging q w = (.ok (), v) ↔ ∃ made threshold,
      w.store.makeDirectories? q.path.parent = .ok made ∧ Logging.threshold? q.level = .ok threshold ∧
      made.Writable (Path.normalize q.path.toText) (q.place w.store.here) ∧
      v = { w with
        store := made.put (q.place w.store.here) (.file (made.contentAt (q.place w.store.here)))
        logging := ⟨threshold, q.handlers w.store.here⟩ } := by
  have hrun : setUpLogging q w = ((w.logging.setUp q w.store).1, { w with
      store := (w.logging.setUp q w.store).2.1, logging := (w.logging.setUp q w.store).2.2 }) := rfl
  have hset {made : Store} {threshold : Nat} {t : Store} {l : Location}
      (hmake : w.store.makeDirectories? q.path.parent = .ok made)
      (hlevel : Logging.threshold? q.level = .ok threshold)
      (hopen : Logging.openFile? made q.path = .ok (t, l)) : w.logging.setUp q w.store =
        (.ok (), t, ⟨threshold, .file ⟨some l, q.format⟩ :: (Logging.console? q).toList.map .console⟩) := by
    simp only [Logging.setUp, hmake, hlevel, hopen]
    cases Logging.console? q <;> rfl
  rw [hrun]
  constructor
  · intro h
    rcases hmake : w.store.makeDirectories? q.path.parent with f | made
    · simp only [Logging.setUp, hmake] at h
      cases h
    rcases hlevel : Logging.threshold? q.level with f | threshold
    · simp only [Logging.setUp, hmake, hlevel] at h
      cases h
    rcases hopen : Logging.openFile? made q.path with f | ⟨t, l⟩
    · simp only [Logging.setUp, hmake, hlevel, hopen] at h
      cases h
    rw [hset hmake hlevel hopen] at h
    obtain ⟨hplace, rfl⟩ := Logging.openFile?_eq_ok.1 hopen
    -- making directories does not move the working directory
    have hl : l = q.place w.store.here := by
      rw [Store.creation?_eq_placeOf hplace.leads, (Store.extends_makeDirectories? hmake).here]
      rfl
    subst hl
    cases h
    exact ⟨made, threshold, rfl, rfl, hplace, by rw [q.handlers_eq]⟩
  · rintro ⟨made, threshold, hmake, hlevel, hplace, rfl⟩
    rw [hset hmake hlevel (Logging.openFile?_eq_ok.2 ⟨hplace, rfl⟩), q.handlers_eq]

/-! ## Lines that can be written -/

namespace Record

/-- The operation of a record can be shown, and there is room for its levels in a line of JSON. -/
def Fits (r : Record) (room : Nat) : Prop :=
  ∀ v, r.operation = some v → v.isShowable = true ∧ v.depth < room

/-- **A record has a line of JSON exactly if its operation fits into one**; its other texts never matter. -/
theorem structuredLine?_eq_ok {r : Record} {room : Nat} {now : Moment} {line : Text} (hroom : 0 < room) :
    r.structuredLine? room now = .ok line ↔ r.Fits room ∧ line = r.structuredLine now := by
  obtain ⟨room, rfl⟩ := Nat.exists_eq_succ_of_ne_zero (Nat.pos_iff_ne_zero.1 hroom)
  -- the other entries are texts, which can always be written
  have hdict : Json.obstacle? (room + 1) (.dict (r.entries now)) = r.operation.bind (Json.obstacle? room) := by
    obtain ⟨level, logger, message, operation, failure⟩ := r
    rcases operation with _ | v <;> rcases failure with _ | f <;>
      simp [entries, Json.obstacle?, Json.entriesObstacle?, Key.ofString, Key.isShowable]
  have hobstacle : Json.obstacle? (room + 1) (.dict (r.entries now)) = none ↔ r.Fits (room + 1) := by
    rw [hdict, Option.bind_eq_none_iff]
    exact forall₂_congr fun v _ => (Json.obstacle?_eq_none room v).trans (and_congr_right' Nat.lt_succ_iff.symm)
  rw [structuredLine?, Json.compose?, ← hobstacle, structuredLine, Json.compact]
  rcases Json.obstacle? (room + 1) (.dict (r.entries now)) with _ | f
  · simp [eq_comm]
  · simp

end Record

namespace LogTrace

variable (s : Store) (l : Location) (bytes : Bytes)

theorem addBytes_here : (addBytes s l bytes).here = s.here := by
  unfold addBytes
  split <;> rfl

theorem held?_addBytes_self : (addBytes s l bytes).held? l = (s.held? l).map (· ++ bytes) := by
  unfold addBytes
  rcases hnode : s.node? l with _ | _ | content
  · simp [Store.held?, hnode]
  · simp [Store.held?, hnode]
  rw [Store.held?_eq_some.2 hnode]
  simp

theorem held?_addBytes_of_ne {k : Location} (hk : k ≠ l) : (addBytes s l bytes).held? k = s.held? k := by
  unfold addBytes
  split
  · exact Store.held?_put_of_ne s hk _
  · rfl

@[simp] theorem leave_failed (host : Host) (r : Record) (f : Failure) : leave s (failed host r f) = s := by
  unfold failed
  split <;> rfl

end LogTrace

/-- The bytes that a file gets of a record: those of its line, if its message is there, nothing keeps the line
from being written and it has bytes. -/
def LogFormat.bytes (format : LogFormat) (host : Host) (r : Record) (message : Except Failure Text)
    (now : Moment) : Bytes :=
  match message with
  | .error _ => []
  | .ok message =>
    match LogHandler.line? format host.writing { r with message := message } now with
    | .error _ => []
    | .ok line => (Utf8.encode? line).toOption.getD []

namespace LogHandler

variable (host : Host) (s : Store) (r : Record) (message : Except Failure Text) (now : Moment)

section File

variable (format : LogFormat) (l : Location) {k : Location}

/-- A file has the bytes of the record added to it, or there are none and it is left alone. -/
theorem leave_file_cases :
    ((file ⟨some l, format⟩).take host r message now).leave s =
        LogTrace.addBytes s l (format.bytes host r message now) ∨
      format.bytes host r message now = [] ∧ ((file ⟨some l, format⟩).take host r message now).leave s = s := by
  rcases message with failure | message
  · exact .inr ⟨rfl, LogTrace.leave_failed s host r failure⟩
  rw [LogFormat.bytes, take]
  dsimp only [write]
  rcases line? format host.writing { r with message := message } now with failure | line
  · exact .inr ⟨rfl, LogTrace.leave_failed s host _ failure⟩
  dsimp only
  rcases Utf8.encode? line with fault | bytes
  · exact .inr ⟨rfl, LogTrace.leave_failed s host _ _⟩
  · exact .inl rfl

/-- A file gets longer by the bytes of the record. -/
theorem held?_leave_self :
    (((file ⟨some l, format⟩).take host r message now).leave s).held? l =
      (s.held? l).map (· ++ format.bytes host r message now) := by
  obtain hwritten | ⟨hbytes, hkept⟩ := leave_file_cases host s r message now format l
  · rw [hwritten, LogTrace.held?_addBytes_self]
  · rw [hkept, hbytes]
    simp

/-- No other file changes. -/
theorem held?_leave_of_ne (hk : k ≠ l) :
    (((file ⟨some l, format⟩).take host r message now).leave s).held? k = s.held? k := by
  obtain hwritten | ⟨-, hkept⟩ := leave_file_cases host s r message now format l
  · rw [hwritten, LogTrace.held?_addBytes_of_ne s l _ hk]
  · rw [hkept]

theorem leave_here : (((file ⟨some l, format⟩).take host r message now).leave s).here = s.here := by
  obtain hwritten | ⟨-, hkept⟩ := leave_file_cases host s r message now format l
  · rw [hwritten, LogTrace.addBytes_here]
  · rw [hkept]

end File

/-- A record that fits has a line in every format. -/
theorem line?_of_fits (h : r.Fits host.writing) (format : LogFormat) :
    line? format host.writing r now =
      .ok ((if format = .structured then r.structuredLine now else r.plainLine now) ++ ("\n" : Text)) := by
  have hstructured : r.structuredLine? host.writing now = .ok (r.structuredLine now) :=
    (Record.structuredLine?_eq_ok host.writing_pos).2 ⟨h, rfl⟩
  unfold line?
  cases format with
  | structured =>
    dsimp only
    rw [hstructured]
    rfl
  | pretty | plain => rfl

/-- A record that fits makes no handler pass a failure on. -/
theorem isPassed_write (h : r.Fits host.writing) (handler : LogHandler) :
    (handler.write host r now).isPassed = false := by
  have hunencodable (fault : Utf8.EncodeFault) :
      (LogTrace.failed host r (.unencodable fault)).isPassed = false := rfl
  unfold write
  split
  · rw [line?_of_fits host r now h]
    dsimp only
    split
    · rfl
    · exact hunencodable _
  · rfl
  · split
    · rfl
    · exact hunencodable _

/-- A console leaves the files alone. -/
theorem leave_console (c : LogConsole) : ((console c).take host r message now).leave s = s := by
  have hdoes := Logging.take_does host r message now (.console c)
  generalize (console c).take host r message now = t at hdoes
  cases hdoes <;> rfl

end LogHandler

namespace Logging

variable {g : Logging} {host : Host} {r : Record} (message : Except Failure Text) (now : Moment)

/-- A log that has a handler takes the records of the desk. -/
theorem traces_attended {h : LogHandler} {rest : List LogHandler} (hg : g.handlers = h :: rest)
    (hown : isOwn r.logger = true) : g.traces host r message now = if g.accepts r then
      LogTrace.untilPassed (g.handlers.map (·.take host r message now)) else [] := by
  have hattended : g.isUnattended r = false := by
    rw [isUnattended, if_pos hown, hg]
    rfl
  rw [traces, hattended]
  rfl

/-- What is said of a record that nobody takes is not written into a file. -/
theorem leave_bareTrace (s : Store) : (bareTrace host r message).leave s = s := by
  rcases message with f | message
  · exact LogTrace.leave_failed s host r f
  · rfl

/-- A record that is none of the desk's own leaves the files alone. -/
theorem foldl_leave_of_stranger (hown : isOwn r.logger = false) (s : Store) :
    (g.traces host r message now).foldl LogTrace.leave s = s := by
  rw [traces, isUnattended, hown, if_neg Bool.false_ne_true, if_pos rfl]
  split
  · exact leave_bareTrace message s
  · rfl

/-- Where one file was set up, a record leaves in the files what that one does. -/
theorem foldl_leave_of_file {f : LogFile} {consoles : List LogConsole}
    (h : g.handlers = .file f :: consoles.map .console) (s : Store) :
    (g.traces host r message now).foldl LogTrace.leave s =
      if g.accepts r then ((LogHandler.file f).take host r message now).leave s else s := by
  have hconsoles (t : Store) : (LogTrace.untilPassed ((consoles.map LogHandler.console).map
      (·.take host r message now))).foldl LogTrace.leave t = t := by
    refine List.foldlRecOn (motive := (· = t)) _ _ rfl fun u hu trace htrace => ?_
    obtain ⟨handler, hhandler, rfl⟩ := List.mem_map.1 (untilPassed_subset _ htrace)
    obtain ⟨c, -, rfl⟩ := List.mem_map.1 hhandler
    rw [LogHandler.leave_console, hu]
  rcases hown : isOwn r.logger
  · rw [foldl_leave_of_stranger message now hown, accepts, hown]
    rfl
  rw [traces_attended message now h hown, h]
  split
  · rw [List.map_cons, LogTrace.untilPassed]
    split
    · rfl
    · rw [List.foldl_cons, hconsoles]
  · rfl

/-- No failure of a handler goes to whoever logged a record that fits into a line. -/
theorem isPassed_traces (h : r.Fits host.writing) :
    ∀ t ∈ g.traces host r (.ok r.message) now, t.isPassed = false := by
  unfold traces
  split
  · split
    · exact List.forall_mem_singleton.2 rfl
    · exact List.forall_mem_nil _
  · split
    · intro t ht
      obtain ⟨handler, -, rfl⟩ := List.mem_map.1 (untilPassed_subset _ ht)
      exact LogHandler.isPassed_write host r now h handler
    · exact List.forall_mem_nil _

/-- **The desk's own records lead to no failure that is passed on**: their operation is a name, if they have
one. -/
theorem isPassed_remark (h : ∀ v, r.operation = some v → ∃ name, v = .text name) :
    ∀ t ∈ g.traces host r (.ok r.message) now, t.isPassed = false := by
  refine isPassed_traces now fun v hv => ?_
  obtain ⟨name, rfl⟩ := h v hv
  exact ⟨rfl, host.writing_pos⟩

end Logging

namespace World

variable {w : World} {l k : Location} {format : LogFormat} {consoles : List LogConsole} (r : Record)
  (message : Except Failure Text)

/-- **A record that is accepted goes to the file once.** -/
theorem held?_handed_self (h : w.logging.handlers = .file ⟨some l, format⟩ :: consoles.map .console) :
    (w.handed r message).store.held? l =
      (w.store.held? l).map (· ++ if w.logging.accepts r then format.bytes w.host r message w.now else []) := by
  rw [handed, Logging.foldl_leave_of_file message w.now h]
  split
  · exact LogHandler.held?_leave_self w.host w.store r message w.now format l
  · simp

theorem held?_handed_of_ne (h : w.logging.handlers = .file ⟨some l, format⟩ :: consoles.map .console)
    (hk : k ≠ l) : (w.handed r message).store.held? k = w.store.held? k := by
  rw [handed, Logging.foldl_leave_of_file message w.now h]
  split
  · exact LogHandler.held?_leave_of_ne w.host w.store r message w.now format l hk
  · rfl

theorem handed_here (h : w.logging.handlers = .file ⟨some l, format⟩ :: consoles.map .console) :
    (w.handed r message).store.here = w.store.here := by
  rw [handed, Logging.foldl_leave_of_file message w.now h]
  split
  · exact LogHandler.leave_here w.host w.store r message w.now format l
  · rfl

end World

end CampaignDesk
