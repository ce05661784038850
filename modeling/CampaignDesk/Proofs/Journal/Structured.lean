import CampaignDesk.Journal.Message
import CampaignDesk.Proofs.Journal.Handlers
import CampaignDesk.Proofs.Json.Documents
import CampaignDesk.Proofs.Json.Printable
import CampaignDesk.Proofs.Sample
import CampaignDesk.Proofs.Text.Pieces

/-!
# Structured log lines read back

* `Record.Exact`: a record without texts that have a pair in them, and with an operation that some document
  holds. `Record.Told`: the entries that tell everything of a record.
* `Record.Exact.readIn`: **the line of an exact record is a document that tells everything of it.**
* `Act.emit_written`: one record that is accepted is one line more.
* `structured_lines_read_back`: **no text of a record can break its line or forge another**; a file that
  records are written to has one line more for each, which tells everything of it, in their order.
-/

namespace CampaignDesk

open Json

/-! ## Texts without pairs -/

theorem isHighSurrogate_of_lt {c : CodePoint} (h : c.val < 0x80) : c.isHighSurrogate = false := by
  simp only [CodePoint.isHighSurrogate, Bool.and_eq_false_iff, decide_eq_false_iff_not]
  omega

theorem isLowSurrogate_of_lt {c : CodePoint} (h : c.val < 0x80) : c.isLowSurrogate = false := by
  simp only [CodePoint.isLowSurrogate, Bool.and_eq_false_iff, decide_eq_false_iff_not]
  omega

namespace Json

variable {s t : Text}

/-- Texts without pairs put together make none unless the first ends with the first half of one, and the
second begins with the other half. -/
theorem Unpaired.append (hs : Unpaired s) (ht : Unpaired t)
    (h : ∀ c ∈ s.getLast?, ∀ d ∈ t.head?, c.isHighSurrogate = false ∨ d.isLowSurrogate = false) :
    Unpaired (s ++ t) := by
  refine List.isChain_append.2 ⟨hs, ht, fun c hc d hd hpair => ?_⟩
  rcases h c hc d hd with hc' | hd'
  · rw [hpair.1] at hc'
    cases hc'
  · rw [hpair.2] at hd'
    cases hd'

/-- Printable ASCII and line feeds, between two texts or around one, make no pair. -/
theorem Unpaired.append_plain (hs : Unpaired s) (ht : Unpaired t) (h : Plain t) : Unpaired (s ++ t) := by
  refine hs.append ht fun _ _ d hd => .inr (isLowSurrogate_of_lt (h.lt d ?_))
  exact List.mem_of_mem_head? hd

theorem Unpaired.plain_append (hs : Unpaired s) (ht : Unpaired t) (h : Plain s) : Unpaired (s ++ t) := by
  refine hs.append ht fun c hc _ _ => .inl (isHighSurrogate_of_lt (h.lt c ?_))
  exact List.mem_of_mem_getLast? hc

theorem Plain.unpaired (h : Plain t) : Unpaired t := by
  induction t with
  | nil => exact List.isChain_nil
  | cons c t ih =>
    obtain ⟨hc, ht⟩ := plain_cons.1 h
    exact Unpaired.plain_append (s := [c]) (List.isChain_singleton _) (ih ht)
      (plain_cons.2 ⟨hc, List.forall_mem_nil _⟩)

/-- Texts without pairs stay so when they are joined by printable ASCII and line feeds. -/
theorem unpaired_join {separator : Text} (hsep : Plain separator) (hne : separator.isEmpty = false)
    {parts : List Text} (h : ∀ part ∈ parts, Unpaired part) : Unpaired (Text.join separator parts) := by
  induction parts with
  | nil => exact List.isChain_nil
  | cons part rest ih =>
    have hpart := h part List.mem_cons_self
    have hrest := ih fun p hp => h p (List.mem_cons_of_mem _ hp)
    cases rest with
    | nil => exact hpart
    | cons next rest =>
      have hfront : Unpaired (part ++ separator) := hpart.append_plain hsep.unpaired hsep
      refine hfront.append hrest fun c hc _ _ => .inl ?_
      rw [List.getLast?_append_of_ne_nil _ (by simpa using hne)] at hc
      exact isHighSurrogate_of_lt (hsep.lt c (List.mem_of_mem_getLast? hc))

end Json

/-! ## What a line tells -/

theorem Kind.printable_fullName (k : Kind) : Printable k.fullName := by
  cases k <;> decide +kernel

namespace Failure

/-- A failure and all that it was raised from have messages without pairs. -/
def Exact (f : Failure) : Prop := Unpaired f.message ∧ ∀ cause ∈ f.causes, Unpaired cause.2

theorem unpaired_accountOf (kind : Kind) {message : Text} (h : Unpaired message) :
    Unpaired (accountOf kind message) := by
  have hname : Plain kind.fullName := kind.printable_fullName.plain
  have hsaid (said : Text) (hsaid : Unpaired said) : Unpaired (if said.isEmpty then kind.fullName
      else kind.fullName ++ (": " : Text) ++ said) := by
    split
    · exact hname.unpaired
    · have hfront : Plain (kind.fullName ++ (": " : Text)) := hname.append (by decide)
      exact hfront.unpaired.plain_append hsaid hfront
  refine hsaid _ ?_
  split
  · exact (by decide : Plain "<no detail available>").unpaired
  · exact h

theorem Exact.account {f : Failure} (h : f.Exact) : Unpaired f.account := by
  refine unpaired_join (by decide +kernel) rfl ?_
  refine List.forall_mem_append.2 ⟨List.forall_mem_map.2 fun cause hcause => ?_, ?_⟩
  · exact unpaired_accountOf cause.1 (h.2 cause (List.mem_reverse.1 hcause))
  · exact List.forall_mem_singleton.2 (unpaired_accountOf f.kind h.1)

end Failure

theorem Moment.printable_stamp (m : Moment) : Printable m.stamp := by
  have hday : Printable m.fullDate :=
    (((Json.printable_padded 4 _).append (by decide)).append (Json.printable_padded 2 _)).append
      (by decide) |>.append (Json.printable_padded 2 _)
  have htime : Printable m.time :=
    (((Json.printable_padded 2 _).append (by decide)).append (Json.printable_padded 2 _)).append
      (by decide) |>.append (Json.printable_padded 2 _)
  have hfraction : Printable
      (if m.microsecond = 0 then [] else ("." : Text) ++ Text.padded 6 m.microsecond) := by
    split
    · exact List.forall_mem_nil _
    · exact Printable.append (by decide) (Json.printable_padded 6 _)
  exact (((hday.append (by decide)).append htime).append hfraction).append (by decide)

namespace Record

/-- A record whose texts have no pair in them, and whose operation, if it has one, is exact and held by some
document. -/
structure Exact (r : Record) : Prop where
  level : Unpaired r.level.name
  logger : Unpaired r.logger
  message : Unpaired r.message
  operation : ∀ v, r.operation = some v → Json.Exact v ∧ ∃ t, parse? t = .ok v
  failure : ∀ f, r.failure = some f → f.Exact

/-- Entries that tell everything of a record: whether it has an operation and a failure, too. -/
structure Told (r : Record) (entries : Entries) : Prop where
  level : Value.lookup? "level" entries = some (.text r.level.name)
  logger : Value.lookup? "logger" entries = some (.text r.logger)
  message : Value.lookup? "message" entries = some (.text r.message)
  operation : Value.lookup? "operation" entries = r.operation
  exception : Value.lookup? "exception" entries = r.failure.map fun f => .text f.account

theorem told_entries (r : Record) (now : Moment) : r.Told (r.entries now) := by
  obtain ⟨level, logger, message, operation, failure⟩ := r
  rcases operation with _ | v <;> rcases failure with _ | f <;> exact ⟨rfl, rfl, rfl, rfl, rfl⟩

/-- The keys of the entries are different. -/
theorem entries_distinct (r : Record) (now : Moment) : ((r.entries now).map Prod.fst).Nodup := by
  have hkeys : (r.entries now).map Prod.fst =
      [.ofString "timestamp", .ofString "level", .ofString "logger", .ofString "message"] ++
        (if r.operation.isSome then [.ofString "operation"] else []) ++
        (if r.failure.isSome then [.ofString "exception"] else []) := by
    obtain ⟨level, logger, message, operation, failure⟩ := r
    rcases operation with _ | v <;> rcases failure with _ | f <;> rfl
  rw [hkeys]
  cases r.operation.isSome <;> cases r.failure.isSome <;> decide

/-- The entries of an exact record are portable. -/
theorem Exact.portable {r : Record} (h : r.Exact) (now : Moment) :
    Portable (.dict (r.entries now)) := by
  have htext {t : Text} {name : String} (ht : Unpaired t) (hname : Unpaired (Text.ofString name)) :
      (∃ k, Key.ofString name = .text k ∧ Unpaired k) ∧ Portable (.text t) :=
    ⟨⟨_, rfl, hname⟩, .text ht⟩
  have hentries : ∀ e ∈ r.entries now, (∃ k, e.1 = .text k ∧ Unpaired k) ∧ Portable e.2 := by
    refine List.forall_mem_append.2 ⟨List.forall_mem_append.2 ⟨?_, ?_⟩, ?_⟩
    · simp only [List.forall_mem_cons]
      exact ⟨htext now.printable_stamp.plain.unpaired (by decide), htext h.level (by decide),
        htext h.logger (by decide), htext h.message (by decide), List.forall_mem_nil _⟩
    · split
      · exact List.forall_mem_nil _
      · next v hv =>
        exact List.forall_mem_singleton.2 ⟨⟨_, rfl, by decide⟩, portable_iff.2 (h.operation v hv)⟩
    · split
      · exact List.forall_mem_nil _
      · next f hf => exact List.forall_mem_singleton.2 (htext (h.failure f hf).account (by decide))
  exact .dict (fun e he => (hentries e he).1) (r.entries_distinct now) fun e he => (hentries e he).2

/-- A line is one document that tells everything of a record. -/
def ReadIn (r : Record) (line : Text) : Prop := ∃ entries, parse? line = .ok (.dict entries) ∧ r.Told entries

/-- An exact record fits into a line that has room for the levels of its operation. -/
theorem Exact.fits {r : Record} {room : Nat} (h : r.Exact)
    (hdepth : ∀ v, r.operation = some v → v.depth < room) : r.Fits room := by
  intro v hv
  obtain ⟨-, t, hread⟩ := h.operation v hv
  exact ⟨((obstacle?_eq_none _ v).1 (writable_of_parseWithin? hread)).1, hdepth v hv⟩

/-- The line of a record is printable ASCII, whatever the record holds. -/
theorem printable_structuredLine (r : Record) (now : Moment) : Printable (r.structuredLine now) :=
  printable_compact _

/-- **The line of an exact record is a document that tells everything of it.** -/
theorem Exact.readIn {r : Record} (h : r.Exact) (now : Moment) : r.ReadIn (r.structuredLine now) :=
  ⟨_, parse?_compact (h.portable now), r.told_entries now⟩

end Record

/-! ## A file of lines -/

/-- The log goes to a file in lines of JSON, and the file holds some bytes. -/
structure World.LogsTo (w : World) (l : Location) (content : Bytes) : Prop where
  handlers : ∃ consoles : List LogConsole,
    w.logging.handlers = .file ⟨some l, .structured⟩ :: consoles.map .console
  content : w.store.node? l = some (.file content)

/-- The bytes of a line that is ended. -/
def lineBytes (line : Text) : Bytes := Utf8.ascii (line ++ ("\n" : Text))

/-- The lines that some records are written as, for those that the log accepts. -/
def World.linesOf (w : World) (rs : List Record) : List Text :=
  (rs.filter w.logging.accepts).map fun r => r.structuredLine w.now

/-- Every record that the log accepts has a line of JSON. -/
def World.TakesLines (w : World) (rs : List Record) : Prop :=
  ∀ r ∈ rs, w.logging.accepts r = true → r.Fits w.host.writing

namespace Act

variable {w v : World} {l : Location} {content : Bytes} {r : Record}

/-- A log written to a file differs from before by the file, by what is shown and by nothing else. -/
structure Written (l : Location) (w v : World) : Prop where
  logging : v.logging = w.logging
  now : v.now = w.now
  host : v.host = w.host
  others : ∀ k ≠ l, v.store.node? k = w.store.node? k

theorem Written.refl (l : Location) (w : World) : Written l w w := ⟨rfl, rfl, rfl, fun _ _ => rfl⟩

theorem Written.trans {u : World} (h : Written l w v) (h' : Written l v u) : Written l w u :=
  ⟨h'.logging.trans h.logging, h'.now.trans h.now, h'.host.trans h.host,
    fun k hk => (h'.others k hk).trans (h.others k hk)⟩

/-- The bytes of a record that fits are those of its line. -/
theorem bytes_structured {host : Host} (h : r.Fits host.writing) (now : Moment) :
    LogFormat.structured.bytes host r (.ok r.message) now = lineBytes (r.structuredLine now) := by
  have hplain : Plain (r.structuredLine now ++ ("\n" : Text)) :=
    (r.printable_structuredLine now).plain.append (by decide)
  rw [LogFormat.bytes, LogHandler.line?_of_fits host r now h, if_pos rfl]
  dsimp only
  rw [Utf8.encode?_ascii hplain.lt]
  rfl

/-- One record is one line more if it is accepted, and none if it is not. -/
theorem emit_written (h : w.LogsTo l content) (hfits : w.logging.accepts r = true → r.Fits w.host.writing) :
    ∃ v, emit r w = (.ok (), v) ∧ Written l w v ∧
      v.LogsTo l (content ++ (w.linesOf [r]).flatMap lineBytes) := by
  obtain ⟨consoles, hhandlers⟩ := h.handlers
  have hbytes : (if w.logging.accepts r then
      LogFormat.structured.bytes w.host r (.ok r.message) w.now else []) =
      (w.linesOf [r]).flatMap lineBytes := by
    by_cases haccepted : w.logging.accepts r = true
    · simp [World.linesOf, haccepted, bytes_structured (hfits haccepted)]
    · simp [World.linesOf, haccepted]
  have hself := World.held?_handed_self r (.ok r.message) hhandlers
  rw [hbytes, Store.held?_eq_some.2 h.content] at hself
  refine ⟨w.handed r (.ok r.message), rfl, ⟨rfl, rfl, rfl, fun k hk => ?_⟩, ⟨consoles, hhandlers⟩,
    Store.held?_eq_some.1 hself⟩
  refine Logging.traces_node? r _ w.now ?_
  rintro ⟨f, hf, hlocation⟩
  rw [hhandlers] at hf
  simp only [List.mem_cons, LogHandler.file.injEq, List.mem_map, reduceCtorEq, and_false, exists_false,
    or_false] at hf
  subst hf
  exact hk (Option.some.inj hlocation).symm

/-- Records are one line more each, in their order, as far as they are accepted. -/
theorem emit_all_written {rs : List Record} (h : w.LogsTo l content) (hfits : w.TakesLines rs) :
    ∃ v, rs.forM emit w = (.ok (), v) ∧ Written l w v ∧
      v.LogsTo l (content ++ (w.linesOf rs).flatMap lineBytes) := by
  induction rs generalizing w content with
  | nil => exact ⟨w, rfl, .refl l w, by simpa [World.linesOf] using h⟩
  | cons r rs ih =>
    obtain ⟨u, hfirst, hu, hwritten⟩ := emit_written h (hfits r List.mem_cons_self)
    have hrestfits : u.TakesLines rs := by
      intro s hs
      rw [hu.logging, hu.host]
      exact hfits s (List.mem_cons_of_mem _ hs)
    obtain ⟨v, hrest, hv, hlast⟩ := ih hwritten hrestfits
    refine ⟨v, ?_, hu.trans hv, ?_⟩
    · change (emit r >>= fun _ => rs.forM emit) w = _
      rw [bind_ok hfirst, hrest]
    · have hlines : w.linesOf (r :: rs) = w.linesOf [r] ++ u.linesOf rs := by
        simp only [World.linesOf, hu.logging, hu.now]
        rw [← List.map_append, ← List.filter_append]
        rfl
      rw [hlines, List.flatMap_append, ← List.append_assoc]
      exact hlast

end Act

/-- A log that was set up to be written in lines of JSON is. -/
theorem Act.logsTo_of_setUp {q : LogRequest} {w v : World} (hformat : q.format = .structured)
    (h : setUpLogging q w = (.ok (), v)) : ∃ content, v.LogsTo (q.place w.store.here) content := by
  obtain ⟨made, threshold, -, -, hplace, rfl⟩ := setUpLogging_eq_ok.1 h
  refine ⟨_, ⟨(Logging.console? q).toList, ?_⟩, Store.node?_put_self _ _ _⟩
  rw [← hformat]
  exact q.handlers_eq w.store.here

/-- Ended lines, split where they end, are the lines and nothing behind the last. -/
theorem Text.splitOn_ended {lines : List Text} (h : ∀ line ∈ lines, Printable line) :
    Text.splitOn 0x0A (lines.flatMap fun line => line ++ ("\n" : Text)) = lines ++ [[]] := by
  induction lines with
  | nil => rfl
  | cons line lines ih =>
    obtain ⟨hline, hlines⟩ := List.forall_mem_cons.1 h
    have hfirst : (line :: lines).flatMap (fun line => line ++ ("\n" : Text)) =
        line ++ 0x0A :: lines.flatMap fun line => line ++ ("\n" : Text) := by
      rw [List.flatMap_cons, List.append_assoc]
      rfl
    rw [hfirst, Text.splitOn_append, Text.splitOn_of_notMem hline.no_feed, ih hlines]
    rfl

/-- **The bytes of ended lines are the lines again.** -/
theorem decode?_lineBytes {lines : List Text} (h : ∀ line ∈ lines, Printable line) :
    ∃ text, Utf8.decode? (lines.flatMap lineBytes) = .ok text ∧
      Text.splitOn 0x0A text = lines ++ [[]] := by
  refine ⟨lines.flatMap fun line => line ++ ("\n" : Text), ?_, Text.splitOn_ended h⟩
  have hplain : Plain (lines.flatMap fun line => line ++ ("\n" : Text)) := by
    intro c hc
    obtain ⟨line, hline, hc⟩ := List.mem_flatMap.1 hc
    exact (h line hline).plain.append (by decide : Plain "\n") c hc
  have hbytes : lines.flatMap lineBytes =
      Utf8.ascii (lines.flatMap fun line => line ++ ("\n" : Text)) := by
    rw [Utf8.ascii, List.map_flatMap]
    rfl
  rw [hbytes]
  exact Utf8.decode_encode (Utf8.encode?_ascii hplain.lt)

/-- **Structured log lines cannot be broken or forged.**

* The line of a record whose message takes its arguments is printable ASCII, whatever it holds; if no text
  of it has a pair in it, the line is one document that tells everything of the record. A record has this line
  and no other, exactly if its operation, should it have one, fits into a line.
* Where the log is set up to be written in lines of JSON, records that are handed to it make its file longer by
  one ended line for each that the log accepts, in their order, if those that it accepts fit into lines. -/
theorem structured_lines_read_back :
    (∀ (r : Record) (args : List Value) (filled : Record) (now : Moment), r.fill? args = .ok filled →
      Printable (filled.structuredLine now) ∧
      (filled.Exact → filled.ReadIn (filled.structuredLine now)) ∧
      ∀ room line, 0 < room →
        (filled.structuredLine? room now = .ok line ↔ filled.Fits room ∧ line = filled.structuredLine now)) ∧
    (∀ (q : LogRequest) (w v : World) (rs : List Record), q.format = .structured →
      Act.setUpLogging q w = (.ok (), v) → v.TakesLines rs →
      ∃ (before added : Bytes) (text : Text) (lines : List Text) (u : World),
        v.store.node? (q.place w.store.here) = some (.file before) ∧ rs.forM Act.emit v = (.ok (), u) ∧
        u.store.node? (q.place w.store.here) = some (.file (before ++ added)) ∧
        (∀ k ≠ q.place w.store.here, u.store.node? k = v.store.node? k) ∧
        Utf8.decode? added = .ok text ∧ Text.splitOn 0x0A text = lines ++ [[]] ∧
        List.Forall₂ (fun r line => Printable line ∧ (r.Exact → r.ReadIn line))
          (rs.filter v.logging.accepts) lines) := by
  refine ⟨fun r args filled now _ => ⟨filled.printable_structuredLine now, fun h => h.readIn now,
    fun room line hroom => Record.structuredLine?_eq_ok hroom⟩, ?_⟩
  intro q w v rs hformat hset hfits
  obtain ⟨before, hlog⟩ := Act.logsTo_of_setUp hformat hset
  obtain ⟨u, hrun, hwritten, hafter⟩ := Act.emit_all_written hlog hfits
  have hprintable : ∀ line ∈ v.linesOf rs, Printable line := by
    intro line hline
    obtain ⟨r, -, rfl⟩ := List.mem_map.1 hline
    exact r.printable_structuredLine v.now
  obtain ⟨text, htext, hsplit⟩ := decode?_lineBytes hprintable
  refine ⟨before, _, text, v.linesOf rs, u, hlog.content, hrun, hafter.content, hwritten.others, htext,
    hsplit, ?_⟩
  rw [World.linesOf, List.forall₂_map_right_iff]
  exact List.forall₂_same.2 fun r _ => ⟨r.printable_structuredLine v.now, fun h => h.readIn v.now⟩

namespace Sample

/-- A record with everything that might break a line: an operation, a failure that was raised from another,
and texts with a line feed, a quote, a backslash and surrogates in the wrong order. -/
def record (message : Text) : Record where
  level := .error
  logger := "mailgrid_ui.service"
  message := message ++ [0x0A, 0x22, 0x5C, 0xDC00, 0xD800]
  operation := some (.dict [(.ofString "run", .list [.int (-1), .null])])
  failure := some (.because (.new .runtimeError "first\nsecond") (.new .valueError [0xD800]))

/-- A log in lines of JSON, from the least level on. -/
def logRequest : LogRequest := ⟨.ofText "logs/desk.log", .ofString "debug", .structured, false⟩

theorem record_exact : (record "run failed").Exact where
  level := by decide
  logger := by decide
  message := by decide
  operation := by
    rintro v ⟨⟩
    refine portable_iff.1 (.dict ?_ (by decide) ?_)
    · exact List.forall_mem_singleton.2 ⟨_, rfl, by decide⟩
    · refine List.forall_mem_singleton.2 (.list ?_)
      simp only [List.forall_mem_cons]
      exact ⟨.int (by decide), .null, List.forall_mem_nil _⟩
  failure := by
    rintro f ⟨⟩
    exact ⟨by decide, by decide⟩

/-- The record is filled in, its line tells everything of it, and two of it make two lines. -/
theorem structured_lines_read_back_sample :
    (record "%s failed").fill? [.ofString "run"] = .ok (record "run failed") ∧
    (record "run failed").ReadIn ((record "run failed").structuredLine world.now) ∧
    ∃ v u before added text first second, Act.setUpLogging logRequest world = (.ok (), v) ∧
      [record "run failed", record "run failed"].forM Act.emit v = (.ok (), u) ∧
      v.store.node? (logRequest.place world.store.here) = some (.file before) ∧
      u.store.node? (logRequest.place world.store.here) = some (.file (before ++ added)) ∧
      Utf8.decode? added = .ok text ∧ Text.splitOn 0x0A text = [first, second, []] ∧
      (record "run failed").ReadIn first ∧ (record "run failed").ReadIn second := by
  have hmessage : Message.fill? (record "%s failed").message [.ofString "run"] =
      .ok (record "run failed").message := ok_of_toOption (by decide +kernel)
  have hfill : (record "%s failed").fill? [.ofString "run"] = .ok (record "run failed") := by
    rw [Record.fill?, hmessage]
    rfl
  obtain ⟨hlines, hfiles⟩ := structured_lines_read_back
  have hset : Act.setUpLogging logRequest world =
      (.ok (), (Act.setUpLogging logRequest world).2) :=
    Prod.ext (ok_of_toOption (by decide +kernel)) rfl
  have hfits : (Act.setUpLogging logRequest world).2.TakesLines [record "run failed", record "run failed"] := by
    have hroom : (Act.setUpLogging logRequest world).2.host.writing = 960 := by decide +kernel
    intro r hr _
    obtain rfl : r = record "run failed" := by simpa using hr
    refine record_exact.fits ?_
    rintro v ⟨⟩
    rw [hroom]
    decide
  obtain ⟨before, added, text, lines, u, hbefore, hrun, hafter, -, htext, hsplit, hread⟩ :=
    hfiles logRequest world _ [record "run failed", record "run failed"] rfl hset hfits
  have haccepted : (Act.setUpLogging logRequest world).2.logging.accepts (record "run failed") = true := by
    decide +kernel
  simp only [List.filter_cons, haccepted, if_true, List.filter_nil] at hread
  cases hread with
  | cons hfirst hrest =>
    cases hrest with
    | cons hsecond hnone =>
      cases hnone
      exact ⟨hfill, (hlines _ _ _ world.now hfill).2.1 record_exact, _, u, before, added, text, _, _, hset,
        hrun, hbefore, hafter, htext, hsplit, hfirst.2 record_exact, hsecond.2 record_exact⟩

end Sample

end CampaignDesk
