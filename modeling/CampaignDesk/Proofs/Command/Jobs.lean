import CampaignDesk.Proofs.Command.Endings
import CampaignDesk.Proofs.Json.Documents
import CampaignDesk.Proofs.Json.Printable
import CampaignDesk.Proofs.Json.Sequences

/-!
# One list of jobs

What an engine returns when it is asked for the jobs is told in three places: by the service, at the desk
and on the command line.

* `Dispatch.RecordsOf`: the records that are made of what an engine returned.
* `Dispatch.Lists`: an engine is asked for the jobs in a database and returns a value.
* `Program.callWith_listing`: a whole call that lists the jobs as JSON.
* `one_job_list`: **the service, the desk and the command line tell the same list**, which has one record
  for each job that the engine returned, in its order; the command line prints it in ASCII, from which it is
  read back with lists for tuples.
-/

namespace CampaignDesk

open Act

namespace Dispatch

/-! ## Records -/

/-- The record that is made of a job: a dictionary is kept, and anything else is wrapped. -/
inductive RecordOf : Value → Value → Prop
  | kept (entries : Entries) : RecordOf (.dict entries) (.dict entries)
  | wrapped {v : Value} (h : ∀ entries, v ≠ .dict entries) : RecordOf v (.dict [(.ofString "job", v)])

/-- The records that are made of what an engine returned: one for each element of a list or a tuple, in
order, and none of anything else. -/
structure RecordsOf (returned : Value) (jobs : List Value) : Prop where
  sequence : ∀ items, returned = .list items ∨ returned = .tuple items →
    List.Forall₂ RecordOf items jobs
  other : (∀ items, returned ≠ .list items ∧ returned ≠ .tuple items) → jobs = []

theorem recordOf_jobRecord (v : Value) : RecordOf v (jobRecord v) := by
  cases v with
  | dict entries => exact .kept entries
  | _ => exact .wrapped nofun

theorem recordsOf_jobRecords (returned : Value) : RecordsOf returned (jobRecords returned) := by
  have hall (items : List Value) : List.Forall₂ RecordOf items (items.map jobRecord) :=
    List.forall₂_map_right_iff.2 (List.forall₂_same.2 fun v _ => recordOf_jobRecord v)
  refine ⟨?_, fun hother => ?_⟩
  · rintro items (rfl | rfl) <;> exact hall items
  · cases returned with
    | list items => exact absurd rfl (hother items).1
    | tuple items => exact absurd rfl (hother items).2
    | _ => rfl

/-! ## The call -/

variable {call : Call} {db returned : Value} {w asked answered : World}

/-- The engine is asked for the jobs in a database, at the moment `asked`, and returns a value. -/
def Lists (call : Call) (db : Value) (w : World) (returned : Value) (asked answered : World) : Prop :=
  ∃ d e, Defaults.ifBlank? db Defaults.schedulerDb = .ok d ∧
    announce "list_jobs" w = (.ok e, asked) ∧ call e (listOrder d) asked = (.ok returned, answered)

/-- The world once the end of a listing has been logged. -/
def listed (answered : World) : World :=
  (closing "list_jobs" (.ok .null) answered).2

/-- **The service lists the records of what the engine returned.** -/
theorem listJobs_of_lists (h : Lists call db w returned asked answered) :
    listJobs call db w = (.ok (jobRecords returned), listed answered) := by
  obtain ⟨d, e, hdb, hannounce, hcall⟩ := h
  have hclosing : closing "list_jobs" (.ok returned) answered = (.ok returned, listed answered) := rfl
  rw [listJobs, bind_ok (database_of_ifBlank hdb w)]
  rw [Act.bind_apply, callEngine_apply, hannounce]
  dsimp only
  rw [hcall, hclosing]
  rfl

/-- The worlds have one host and no log drawn on the console, and have printed the same answers. -/
structure SameAnswers (w v : World) : Prop where
  host : v.host = w.host
  undrawn : w.logging.isDrawn = false → v.logging.isDrawn = false
  out : w.logging.isDrawn = false → v.out = w.out

instance : Std.Refl SameAnswers := ⟨fun _ => ⟨rfl, id, fun _ => rfl⟩⟩

instance : Trans SameAnswers SameAnswers SameAnswers :=
  ⟨fun h h' => ⟨h'.host.trans h.host, fun hw => h'.undrawn (h.undrawn hw),
    fun hw => (h'.out (h.undrawn hw)).trans (h.out hw)⟩⟩

theorem sameAnswers_incidental : Incidental SameAnswers :=
  .of_note (fun r _ => ⟨rfl, id, World.handed_out r _⟩) fun _ _ => ⟨rfl, id, fun _ => rfl⟩

/-- Nothing has been answered when the engine is asked, if the log is not drawn on the console. -/
theorem Lists.sameAnswers (h : Lists call db w returned asked answered) : SameAnswers w asked := by
  obtain ⟨d, e, -, hannounce, -⟩ := h
  have hsame := sameAnswers_incidental.announce "list_jobs" w
  rw [hannounce] at hsame
  exact hsame

/-- Nothing is answered by the end of a listing, if the log is not drawn on the console. -/
theorem listed_out (h : answered.logging.isDrawn = false) : (listed answered).out = answered.out :=
  World.handed_out _ _ h

/-- The end of a listing leaves it to the same host. -/
theorem listed_host (answered : World) : (listed answered).host = answered.host := rfl

end Dispatch

/-- The desk answers with the records of what the engine returned. -/
theorem Desk.askJobs_of_lists {call : Dispatch.Call} {db returned : Value} {w asked answered : World}
    (h : Dispatch.Lists call db w returned asked answered) :
    askJobs call db w =
      (.ok (.ok .null (.list (Dispatch.jobRecords returned))), Dispatch.listed answered) := by
  rw [askJobs, bind_ok (attempt_apply _ w), Dispatch.listJobs_of_lists h]
  rfl

namespace Program

variable {call : Dispatch.Call} {argv : List Text} {w begun asked answered : World} {settings : Settings}
  {db : Text} {returned : Value}

/-- A call that lists the jobs in a database as JSON, with settings that can be used. The log is not drawn on
the console, where it would stand among the answers. -/
def Listing (argv : List Text) (w begun : World) (settings : Settings) (db : Text) : Prop :=
  ∃ named, Command.named? argv = .ok (.something named) ∧
    Command.begin named.verbose w = (.ok (.ok settings), begun) ∧
    Command.ofWords? begun.store named.name named.words = .ok (.something (.listJobs db true)) ∧
    ¬ (named.verbose = true ∧ settings.logFormat = .pretty)

theorem Listing.undrawn (h : Listing argv w begun settings db) : begun.logging.isDrawn = false := by
  obtain ⟨named, -, hbegin, -, hconsole⟩ := h
  exact Command.undrawn_of_begin hbegin hconsole

/-- Nothing has been answered when a call has begun. -/
theorem Listing.unanswered (h : Listing argv w begun settings db) :
    (atWork begun settings).out = w.out ∧ (atWork begun settings).host = w.host := by
  obtain ⟨named, -, hbegin, -, -⟩ := h
  obtain ⟨v, -, hrest, ⟨f, -, hfailed⟩ | ⟨-, s, hbegun⟩⟩ := Command.begin_cases named.verbose w
  · cases hbegin.symm.trans hfailed
  · cases hbegin.symm.trans hbegun
    rw [atWork, hrest]
    exact ⟨rfl, rfl⟩

/-- **A whole call that lists the jobs as JSON** prints the records of what the engine returned. -/
theorem callWith_listing (h : Listing argv w begun settings db)
    (hlists : Dispatch.Lists call (.text db) (atWork begun settings) returned asked answered)
    (hcompose : Json.compose? answered.host.writing ⟨some 2⟩ (.list (Dispatch.jobRecords returned)) =
      .ok (Json.indented 2 (.list (Dispatch.jobRecords returned)))) :
    callWith call argv w = (⟨0, none⟩, Console.answered
      (Json.indented 2 (.list (Dispatch.jobRecords returned)) ++ ("\n" : Text))
      (Dispatch.listed answered)) := by
  obtain ⟨named, hnamed, hbegin, hwords, -⟩ := h
  have hrun : run call argv w = Command.showJobs call db true (atWork begun settings) := by
    rw [run, hnamed]
    dsimp only
    rw [bind_ok hbegin, bind_ok (get_apply begun), hwords]
    rfl
  have hplain : Json.Plain
      (Json.indented 2 (.list (Dispatch.jobRecords returned)) ++ ("\n" : Text)) :=
    (Json.plain_write _ 0 _).append (by decide)
  have hprint (v : World) : Console.echo (Json.indented 2 (.list (Dispatch.jobRecords returned))) v =
      (.ok (), Console.answered
        (Json.indented 2 (.list (Dispatch.jobRecords returned)) ++ ("\n" : Text)) v) := by
    rw [Console.echo, Console.print_apply, Utf8.encode?_ascii hplain.lt]
  rw [callWith]
  change ended (run call argv w) = _
  rw [hrun, Command.showJobs, bind_ok (attempt_apply _ _), Dispatch.listJobs_of_lists hlists]
  simp only [if_true]
  rw [bind_ok (get_apply _), Dispatch.listed_host, hcompose, bind_ok (settle_apply _ _),
    bind_ok (hprint _)]
  rfl

end Program

/-- **The service, the desk and the command line tell the same list of jobs.** Whatever an engine returns
when it is asked for the jobs, there is one list of records of it.

* The service lists it, and the desk answers it.
* If the list is portable with lists for its tuples, there is room for its levels and the log is not drawn on
  the console, a call that lists the jobs as JSON ends with zero, and prints a text in ASCII besides what the
  engine itself may have printed; the text is a JSON document of the list with lists for its tuples. -/
theorem one_job_list (call : Dispatch.Call) (returned : Value) :
    ∃ jobs, Dispatch.RecordsOf returned jobs ∧
    (∀ db w asked answered, Dispatch.Lists call db w returned asked answered →
      (∃ v, Dispatch.listJobs call db w = (.ok jobs, v)) ∧
      ∃ o v, Desk.askJobs call db w = (.ok o, v) ∧
        Value.lookup? "success" o.toEntries = some (.bool true) ∧
        Value.lookup? "jobs" o.toEntries = some (.list jobs)) ∧
    (Json.Portable (Value.list jobs).untupled → ∀ argv db w begun settings asked answered,
      Program.Listing argv w begun settings db →
      Dispatch.Lists call (.text db) (Program.atWork begun settings) returned asked answered →
      answered.logging.isDrawn = false → (Value.list jobs).untupled.depth ≤ answered.host.writing →
      ∃ text v, Program.callWith call argv w = (⟨0, none⟩, v) ∧
        asked.out = w.out ∧ v.out = answered.out ++ text ∧ (∀ c ∈ text, c.val < 0x80) ∧
        Json.parse? text = .ok (Value.list jobs).untupled) := by
  refine ⟨Dispatch.jobRecords returned, Dispatch.recordsOf_jobRecords returned, ?_, ?_⟩
  · intro db w asked answered hlists
    have hok := (Desk.ok_entries .null (.list (Dispatch.jobRecords returned))).1
    exact ⟨⟨_, Dispatch.listJobs_of_lists hlists⟩, _, _, Desk.askJobs_of_lists hlists, hok,
      Desk.ok_jobs _ _⟩
  · intro hportable argv db w begun settings asked answered hlisting hlists hdrawn hdepth
    have hplain := Json.plain_write ⟨some 2⟩ 0 (.list (Dispatch.jobRecords returned))
    have hwritten : Json.indented 2 (Value.list (Dispatch.jobRecords returned)).untupled =
        Json.indented 2 (.list (Dispatch.jobRecords returned)) := Json.write_untupled _ 0 _
    have hcompose := hportable.compose? hdepth ⟨some 2⟩
    rw [Json.compose?_untupled, Json.write_untupled] at hcompose
    have hafter := Dispatch.listed_out hdrawn
    refine ⟨_, _, Program.callWith_listing hlisting hlists hcompose,
      (hlists.sameAnswers.out hlisting.undrawn).trans hlisting.unanswered.1,
      congrArg (· ++ _) hafter, ?_, ?_⟩
    · exact (hplain.append (by decide : Json.Plain "\n")).lt
    · rw [← hwritten]
      exact Json.parse?_line hportable 2

/-- Jobs in a tuple: a record, a text, and a tuple in a list. -/
def Sample.returned : Value :=
  .tuple [.dict [(.ofString "id", .tuple [.int 7, .null])], .ofString "nightly",
    .list [.tuple [.bool true]]]

/-- The records of these jobs. -/
def Sample.jobs : List Value :=
  [.dict [(.ofString "id", .tuple [.int 7, .null])], .dict [(.ofString "job", .ofString "nightly")],
    .dict [(.ofString "job", .list [.tuple [.bool true]])]]

theorem Sample.jobs_portable : Json.Portable (Value.list Sample.jobs).untupled := by
  have hrecord (key : String) (hkey : Json.Unpaired (Text.ofString key)) {v : Value}
      (hv : Json.Portable v) : Json.Portable (.dict [(.ofString key, v)]) :=
    .dict (List.forall_mem_singleton.2 ⟨_, rfl, hkey⟩) (List.pairwise_singleton _ _)
      (List.forall_mem_singleton.2 hv)
  refine .list (List.forall_mem_cons.2 ⟨hrecord "id" (by decide) (.list ?_),
    List.forall_mem_cons.2 ⟨hrecord "job" (by decide) (.text (by decide)),
    List.forall_mem_singleton.2 (hrecord "job" (by decide) (.list ?_))⟩⟩)
  · exact List.forall_mem_cons.2 ⟨.int (by decide), List.forall_mem_singleton.2 .null⟩
  · exact List.forall_mem_singleton.2 (.list (List.forall_mem_singleton.2 (.bool true)))

/-- A tuple of jobs is listed, answered and printed; what is printed is read back as lists. -/
theorem one_job_list_sample :
    let call : Dispatch.Call := fun _ _ => pure Sample.returned
    let db : Text := "campaigns.db"
    ∃ begun settings asked answered text,
      Program.Listing ["jobs", "list", "--db", db, "--json"] Sample.requested begun settings db ∧
      Dispatch.Lists call (.text db) (Program.atWork begun settings) Sample.returned asked answered ∧
      (∃ v, Dispatch.listJobs call (.text db) (Program.atWork begun settings) = (.ok Sample.jobs, v)) ∧
      (Program.callWith call ["jobs", "list", "--db", db, "--json"] Sample.requested).2.out = text ∧
      Json.parse? text = .ok (Value.list Sample.jobs).untupled := by
  intro call db
  -- the command can be read, and an engine can be had
  have hcommand : Sample.asksFor (.listJobs db true)
      (Command.ofWords? (Command.begin false Sample.requested).2.store "jobs"
        ["list", "--db", db, "--json"]) = true := by decide +kernel
  have hengine : (Command.begin false Sample.requested).1.toOption.any (fun begun =>
      begun.toOption.any fun settings =>
        (Dispatch.announce "list_jobs" (Program.atWork (Command.begin false Sample.requested).2
          settings)).1.isOk) = true := by decide +kernel
  rcases hbegin : Command.begin false Sample.requested with ⟨f | f | settings, begun⟩ <;>
    rw [hbegin] at hcommand hengine
  · cases hengine
  · cases hengine
  rcases hasked : Dispatch.announce "list_jobs" (Program.atWork begun settings) with ⟨f | e, asked⟩
  · simp only [Except.toOption, Option.any_some, hasked] at hengine
    cases hengine
  have hlisting : Program.Listing ["jobs", "list", "--db", db, "--json"] Sample.requested begun settings
      db := ⟨⟨false, "jobs", ["list", "--db", db, "--json"]⟩, rfl, hbegin, Sample.eq_of_asksFor hcommand,
        fun hverbose => Bool.false_ne_true hverbose.1⟩
  have hlists : Dispatch.Lists call (.text db) (Program.atWork begun settings) Sample.returned asked
      asked := ⟨.text db, e, rfl, hasked, rfl⟩
  have hdepth : (Value.list Sample.jobs).untupled.depth ≤ asked.host.writing := by
    rw [hlists.sameAnswers.host, hlisting.unanswered.2]
    decide
  obtain ⟨jobs, hrecords, hlisted, hprinted⟩ := one_job_list call Sample.returned
  have hjobs : jobs = Sample.jobs := by
    obtain ⟨⟨v, hlist⟩, -⟩ := hlisted _ _ _ _ hlists
    cases hlist.symm.trans (Dispatch.listJobs_of_lists hlists)
    rfl
  subst hjobs
  obtain ⟨text, v, hcall, hbefore, hafter, -, hparse⟩ :=
    hprinted Sample.jobs_portable _ _ _ _ _ _ _ hlisting hlists
      (hlists.sameAnswers.undrawn hlisting.undrawn) hdepth
  refine ⟨begun, settings, asked, asked, text, hlisting, hlists, (hlisted _ _ _ _ hlists).1, ?_, hparse⟩
  rw [hcall]
  exact hafter.trans (by rw [hbefore]; rfl)

end CampaignDesk
