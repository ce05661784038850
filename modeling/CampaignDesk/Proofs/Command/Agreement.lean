import CampaignDesk.Proofs.Campaign.Cleanup
import CampaignDesk.Proofs.Command.Beginning
import CampaignDesk.Proofs.Console.Lines
import CampaignDesk.Proofs.Desk.Answers
import CampaignDesk.Proofs.Form.Payload
import CampaignDesk.Proofs.Text.Utf8

/-!
# The command line and the desk do the same

A command on a campaign changes the form of a request file as its options say; at the desk the same
changes come as further entries of the payload.

* `Command.onCampaign?`: what a command asks of a campaign.
* `Command.conclude_cases`: a command ends with zero if its operation went well, and with one if not.
* `Program.callWith_campaign`: a whole call on a campaign is its operation on the changed form, concluded.
* `conclude_and_invoke_agree`, `conclude_and_invoke_call`: a command and the desk tell the same of one
  operation, and come to the same engine call.
* `command_and_desk_agree`: **a call ends with zero exactly if the desk answers with a success, and with
  one otherwise; both call the engine with the same order at the same moment, or neither does; and both
  leave the same files.**
-/

namespace CampaignDesk

open World Act

/-! ## Commands on campaigns -/

namespace Command

/-- The change that the text of an option makes, unless it was not given or is empty. -/
def textChange (field : Form.Field) : Option Text → List (Form.Field × Value)
  | some (c :: rest) => [(field, .text (c :: rest))]
  | _ => []

/-- The change that the number of an option makes, unless it was not given or is zero. -/
def numberChange (field : Form.Field) : Option Int → List (Form.Field × Value)
  | some n => if n = 0 then [] else [(field, .int n)]
  | none => []

/-- What a command asks of a campaign: the operation, the request file, and the fields that its options
change. -/
def onCampaign? : Command → Option (Campaign × Text × List (Form.Field × Value))
  | .run file dryRun => some (.run, file, if dryRun then [(.dryRun, .bool true)] else [])
  | .preview file port => some (.preview, file, numberChange .previewPort port)
  | .schedule file at? interval cron db =>
    some (.schedule, file, textChange .scheduleAt at? ++ textChange .interval interval ++
      textChange .cron cron ++ textChange .schedulerDb db)
  | _ => none

variable {command : Command} {operation : Campaign} {file : Text}
  {changes : List (Form.Field × Value)}

theorem changed_textChange (field : Form.Field) (given : Option Text) (form : Form) :
    form.changed (textChange field given) = withText field given form := by
  rcases given with _ | _ | ⟨c, rest⟩ <;> rfl

theorem changed_numberChange (field : Form.Field) (given : Option Int) (form : Form) :
    form.changed (numberChange field given) = withNumber field given form := by
  rcases given with _ | n
  · rfl
  · rw [numberChange, withNumber]
    split <;> rfl

/-- A command on a campaign performs it with the form of the request file, changed. -/
theorem perform_onCampaign (h : command.onCampaign? = some (operation, file, changes))
    (call : Dispatch.Call) (settings : Except Failure Settings) :
    perform call settings command =
      withSettings settings (campaign call operation file fun form => form.changed changes) := by
  cases command with
  | run path dryRun =>
    cases h
    cases dryRun <;> rfl
  | preview path port =>
    cases h
    have hchange : (fun form : Form => form.changed (numberChange .previewPort port)) =
        withNumber .previewPort port := funext (changed_numberChange .previewPort port)
    rw [hchange]
    rfl
  | schedule path at? interval cron db =>
    cases h
    have hchange : (fun form : Form => form.changed (textChange .scheduleAt at? ++
        textChange .interval interval ++ textChange .cron cron ++ textChange .schedulerDb db)) =
        fun form => withText .schedulerDb db (withText .cron cron
          (withText .interval interval (withText .scheduleAt at? form))) := by
      funext form
      simp only [← changed_textChange, Form.changed, List.foldl_append]
    rw [hchange]
    rfl
  | listJobs | cancelJob | scheduler | init => cases h

/-- No option changes the attachments, and none changes a field to nothing. -/
theorem changes_plain (h : command.onCampaign? = some (operation, file, changes)) :
    ∀ c ∈ changes, c.1 ≠ .attachments ∧ c.2 ≠ .null := by
  have htext (field : Form.Field) (hfield : field ≠ .attachments) (given : Option Text) :
      ∀ c ∈ textChange field given, c.1 ≠ .attachments ∧ c.2 ≠ .null := by
    rcases given with _ | _ | ⟨d, rest⟩
    · exact nofun
    · exact nofun
    · exact List.forall_mem_singleton.2 ⟨hfield, nofun⟩
  cases command with
  | run path dryRun =>
    cases h
    cases dryRun
    · exact nofun
    · exact List.forall_mem_singleton.2 ⟨nofun, nofun⟩
  | preview path port =>
    cases h
    rcases port with _ | n
    · exact nofun
    · rw [numberChange]
      split
      · exact nofun
      · exact List.forall_mem_singleton.2 ⟨nofun, nofun⟩
  | schedule path at? interval cron db =>
    cases h
    intro c hc
    simp only [List.mem_append, or_assoc] at hc
    rcases hc with hc | hc | hc | hc
    · exact htext .scheduleAt nofun at? c hc
    · exact htext .interval nofun interval c hc
    · exact htext .cron nofun cron c hc
    · exact htext .schedulerDb nofun db c hc
  | listJobs | cancelJob | scheduler | init => cases h

end Command

/-! ## How calls end -/

theorem Kind.not_systemExit {k : Kind} (h : k.isOrdinary = true) : k.isA .systemExit = false := by
  cases k <;> revert h <;> decide

/-- The worlds differ at most in what has been printed. -/
def World.Printed (w v : World) : Prop := v = { w with out := v.out, err := v.err }

/-- What is printed makes no difference to files. -/
theorem World.Printed.sameFiles {w v u : World} (h : w.Printed v) (hu : w.SameFiles u) :
    v.SameFiles u := by
  rw [h]
  exact ⟨hu.faults, hu.quiet, hu.tree, hu.vacant, hu.node⟩

/-- An ordinary failure ends a call with one, and something is printed at most. -/
theorem Program.ending_ordinary {f : Failure} (hf : f.kind.isOrdinary = true) (w : World) :
    (ending f w).1.status = 1 ∧ w.Printed (ending f w).2 := by
  rw [ending, if_neg (by simp [Kind.not_systemExit hf])]
  split
  · exact ⟨rfl, rfl⟩
  · split
    · exact ⟨rfl, rfl⟩
    · exact ⟨rfl, rfl⟩

/-- A text is printed, or has no bytes and is refused with an ordinary failure. -/
theorem Console.say_cases (m : Mark) (message : Text) (w : World) :
    (∃ v, say m message w = (.ok (), v) ∧ w.Printed v) ∨
      ∃ f, say m message w = (.error f, w) ∧ f.kind.isOrdinary = true := by
  rw [say_apply, print]
  rcases Utf8.encode? (line m message w.host.terminal) with fault | bytes
  · exact .inr ⟨_, rfl, rfl⟩
  · exact .inl ⟨_, rfl, rfl⟩

/-- What is said of a campaign that went well can be printed, on any terminal. -/
theorem Console.encode?_successMessage (operation : Campaign) (terminal : Terminal) : ∃ printed,
    Utf8.encode? (line .success (Text.ofString (Desk.successMessage operation)) terminal) = .ok printed := by
  have hplain : (Text.ofString (Desk.successMessage operation)).all (!·.isSurrogate) = true := by
    cases operation <;> decide +kernel
  rcases Utf8.encode?_cases (line .success (Text.ofString (Desk.successMessage operation)) terminal) with
    ⟨bytes, hbytes, -⟩ | ⟨-, -, c, hc, hsurrogate⟩
  · exact ⟨bytes, hbytes⟩
  · have hc' := List.all_eq_true.1 hplain c (isSurrogate_of_mem_line hc hsurrogate)
    rw [hsurrogate] at hc'
    cases hc'

theorem Console.say_successMessage (operation : Campaign) (w : World) :
    ∃ v, say .success (Text.ofString (Desk.successMessage operation)) w = (.ok (), v) ∧
      w.Printed v := by
  obtain ⟨bytes, hbytes⟩ := encode?_successMessage operation w.host.terminal
  rw [say_apply, print, hbytes]
  exact ⟨_, rfl, rfl⟩

namespace Command

/-- How a command concludes depends only on how its operation ended. -/
theorem conclude_congr {act act' : Act Unit} {w v : World} (h : act w = act' v) (success : Text) :
    conclude act success w = conclude act' success v := by
  simp only [conclude, Act.bind_apply, attempt_apply, h]

/-- **A command ends with zero if its operation went well, and with one if not**, and prints something
at most. -/
theorem conclude_cases {act : Act Unit} {w : World} (hact : Ordinary (act w).1) (operation : Campaign) :
    ∃ e v, Program.ended (conclude act (Text.ofString (Desk.successMessage operation)) w) = (e, v) ∧
      ((act w).1 = .ok () ∧ e.status = 0 ∨ (∃ f, (act w).1 = .error f) ∧ e.status = 1) ∧
      (act w).2.Printed v := by
  unfold conclude
  rw [bind_ok (attempt_apply act w)]
  rcases hrun : act w with ⟨f | _, v⟩ <;> rw [hrun] at hact
  · have hf : f.kind.isOrdinary = true := hact f rfl
    dsimp only
    by_cases htold : isTold f = true
    · rw [if_pos htold, Act.bind_apply]
      rcases Console.say_cases .failure f.message v with ⟨u, hsay, hprinted⟩ | ⟨g, hsay, hg⟩ <;>
        rw [hsay]
      · exact ⟨_, _, rfl, .inr ⟨⟨f, rfl⟩, rfl⟩, hprinted⟩
      · obtain ⟨hstatus, hprinted⟩ := Program.ending_ordinary hg v
        exact ⟨_, _, rfl, .inr ⟨⟨f, rfl⟩, hstatus⟩, hprinted⟩
    · rw [if_neg htold]
      obtain ⟨hstatus, hprinted⟩ := Program.ending_ordinary hf v
      exact ⟨_, _, rfl, .inr ⟨⟨f, rfl⟩, hstatus⟩, hprinted⟩
  · obtain ⟨u, hsay, hprinted⟩ := Console.say_successMessage operation v
    dsimp only
    rw [bind_ok hsay]
    exact ⟨_, _, rfl, .inl ⟨rfl, rfl⟩, hprinted⟩

/-- What a campaign does with a request file that holds an object: its form is changed, and the operation
on it concludes the command. -/
theorem campaign_of_request {call : Dispatch.Call} {operation : Campaign} {file text : Text}
    {change : Form → Form} {payload : Entries} {w : World}
    (hread : w.store.readText? (.ofText file) = .ok text)
    (hparse : Json.parseWithin? w.host.reading text = .ok (.dict payload)) :
    campaign call operation file change w =
      match Form.ofPayload? (.dict payload) with
      | .error f => (.error f, w)
      | .ok form => conclude (Dispatch.perform call operation (change form))
          (Text.ofString (Desk.successMessage operation)) w := by
  have hrequest : request file w = (.ok (.ok payload), w) := by
    rw [request, Act.bind_apply, Act.get_apply]
    simp only [hread, Act.bind_apply, settle_apply, hparse]
    rfl
  rw [campaign, bind_ok hrequest]
  simp only [Act.bind_apply, settle_apply]
  rcases Form.ofPayload? (.dict payload) with f | form
  · rfl
  · rfl

end Command

/-! ## Whole calls -/

/-- A call that names a command on a campaign, with settings that can be used and a request file that
holds a payload: `w` is the world before, `v` the one once the settings are read and the log is set
up. -/
def Program.Campaigning (argv : List Text) (w v : World) (settings : Settings)
    (operation : Campaign) (payload : Entries) (changes : List (Form.Field × Value)) : Prop :=
  ∃ named command file text, Command.named? argv = .ok (.something named) ∧
    Command.begin named.verbose w = (.ok (.ok settings), v) ∧
    Command.ofWords? v.store named.name named.words = .ok (.something command) ∧
    command.onCampaign? = some (operation, file, changes) ∧
    v.store.readText? (.ofText file) = .ok text ∧
    Json.parseWithin? v.host.reading text = .ok (.dict payload)

/-- The world in which the service works once the settings are read. -/
def Program.atWork (v : World) (settings : Settings) : World :=
  { v with service := ⟨none, settings.tempDir⟩ }

/-- A service that works in a mild world works in one once the settings are read. -/
theorem Program.atWork_mild {verbose : Bool} {w v : World} {settings : Settings}
    (hbegin : Command.begin verbose w = (.ok (.ok settings), v)) (hw : w.Mild) :
    (atWork v settings).Mild := by
  have hbegun := Command.begin_mild verbose hw
  rw [hbegin] at hbegun
  exact ⟨hbegun.faults, hbegun.cwd, hbegun.entryPoints⟩

/-- A call that names a command on a campaign does it once the settings are read. -/
theorem Program.callWith_onCampaign {argv : List Text} {named : Command.Named} {w v : World}
    {settings : Settings} {command : Command} {operation : Campaign} {file : Text}
    {changes : List (Form.Field × Value)} (hnamed : Command.named? argv = .ok (.something named))
    (hbegin : Command.begin named.verbose w = (.ok (.ok settings), v))
    (hwords : Command.ofWords? v.store named.name named.words = .ok (.something command))
    (hcampaign : command.onCampaign? = some (operation, file, changes)) (call : Dispatch.Call) :
    callWith call argv w = ended (Command.campaign call operation file
      (fun form => form.changed changes) (atWork v settings)) := by
  have hrun : run call argv w = Command.perform call (.ok settings) command v := by
    rw [run, hnamed]
    dsimp only
    rw [bind_ok hbegin, bind_ok (get_apply v), hwords]
  have hperform : Command.perform call (.ok settings) command v =
      Command.campaign call operation file (fun form => form.changed changes) (atWork v settings) := by
    rw [Command.perform_onCampaign hcampaign]
    rfl
  rw [callWith]
  change ended (run call argv w) = _
  rw [hrun, hperform]

/-- **A whole call on a campaign is its operation on the changed form, concluded.** -/
theorem Program.callWith_campaign {argv : List Text} {w v : World} {settings : Settings}
    {operation : Campaign} {payload : Entries} {changes : List (Form.Field × Value)}
    (h : Campaigning argv w v settings operation payload changes) (call : Dispatch.Call) :
    callWith call argv w = ended (match Form.ofPayload? (.dict payload) with
      | .error f => (.error f, atWork v settings)
      | .ok form => Command.conclude (Dispatch.perform call operation (form.changed changes))
          (Text.ofString (Desk.successMessage operation)) (atWork v settings)) := by
  obtain ⟨named, command, file, text, hnamed, hbegin, hwords, hcampaign, hread, hparse⟩ := h
  have hrequest : (atWork v settings).store.readText? (.ofText file) = .ok text := hread
  have hpayload : Json.parseWithin? (atWork v settings).host.reading text = .ok (.dict payload) := hparse
  rw [callWith_onCampaign hnamed hbegin hwords hcampaign,
    Command.campaign_of_request hrequest hpayload]
  rfl

/-- What is asked at the desk is answered by how it ended: with a success or not, and in a world with
the same files. -/
theorem Desk.invoke_cases {act : Act Unit} {w : World} (hact : Ordinary (act w).1) (message : String) :
    ∃ o v, invoke act message w = (.ok o, v) ∧
      ((act w).1 = .ok () ∧ o.success = .bool true ∨
        (∃ f, (act w).1 = .error f) ∧ o.success = .bool false) ∧
      (act w).2.SameFiles v := by
  unfold invoke
  rw [bind_ok (attempt_apply act w)]
  rcases hrun : act w with ⟨f | _, v⟩ <;> rw [hrun] at hact
  · have hf : f.kind.isOrdinary = true := hact f rfl
    dsimp only
    have hsame := Dispatch.sameFiles_incidental.outcomeOf f
      (("Unexpected error: " : Text) ++ f.message) .null v
    obtain ⟨u, hanswer⟩ : ∃ u, outcomeOf f (("Unexpected error: " : Text) ++ f.message) .null v =
        (.ok (.failed f .null), u) := by
      unfold outcomeOf
      rw [if_pos hf]
      split
      · exact ⟨_, rfl⟩
      · exact ⟨_, rfl⟩
    rw [hanswer] at hsame
    exact ⟨_, u, hanswer, .inr ⟨⟨f, rfl⟩, rfl⟩, hsame⟩
  · exact ⟨_, v, rfl, .inl ⟨rfl, rfl⟩, Std.Refl.refl v⟩

/-- A command concluded and an answer at the desk tell the same of one operation. -/
theorem conclude_and_invoke_agree {act : Act Unit} {w : World} (hact : Ordinary (act w).1)
    (operation : Campaign) :
    ∃ e v o u,
      Program.ended (Command.conclude act (Text.ofString (Desk.successMessage operation)) w) = (e, v) ∧
      Desk.invoke act (Desk.successMessage operation) w = (.ok o, u) ∧
      (o.success = .bool true ∧ e.status = 0 ∨ o.success = .bool false ∧ e.status = 1) ∧
      v.SameFiles u := by
  obtain ⟨e, v, hended, hstatus, hprinted⟩ := Command.conclude_cases hact operation
  obtain ⟨o, u, hanswer, hsuccess, hfiles⟩ := Desk.invoke_cases hact (Desk.successMessage operation)
  refine ⟨e, v, o, u, hended, hanswer, ?_, hprinted.sameFiles hfiles⟩
  rcases hstatus with ⟨hok, hzero⟩ | ⟨⟨f, herror⟩, hone⟩
  · rcases hsuccess with ⟨-, htrue⟩ | ⟨⟨f, herror⟩, -⟩
    · exact .inl ⟨htrue, hzero⟩
    · cases hok.symm.trans herror
  · rcases hsuccess with ⟨hok, -⟩ | ⟨-, hfalse⟩
    · cases hok.symm.trans herror
    · exact .inr ⟨hfalse, hone⟩

/-- What cannot be used ends a call with one, and is answered at the desk with a failure. -/
theorem ended_and_invoke_refused {f : Failure} (hf : f.kind.isOrdinary = true) (message : String)
    (w : World) :
    ∃ o u, Desk.invoke (fun w => (.error f, w)) message w = (.ok o, u) ∧ o.success = .bool false ∧
      (Program.ended (.error f, w)).1.status = 1 ∧ (Program.ended (.error f, w)).2.SameFiles u := by
  obtain ⟨hstatus, hprinted⟩ := Program.ending_ordinary hf w
  obtain ⟨o, u, hanswer, hsuccess, hfiles⟩ :=
    @Desk.invoke_cases (fun w => (.error f, w)) w (ordinary_error hf) message
  refine ⟨o, u, hanswer, ?_, hstatus, hprinted.sameFiles hfiles⟩
  rcases hsuccess with ⟨hok, -⟩ | ⟨-, hfalse⟩
  · cases hok
  · exact hfalse

/-- **A command and the desk come to the same engine call, or both to none**, and go on from how that call
ends. -/
theorem conclude_and_invoke_call (operation : Campaign) (form : Form) (w : World) :
    let message := Desk.successMessage operation
    let ending (act : Act Unit) := Program.ended (Command.conclude act (Text.ofString message) w)
    let answer (act : Act Unit) := Desk.invoke act message w
    (∃ e o, ∀ call, ending (Dispatch.perform call operation form) = e ∧
        answer (Dispatch.perform call operation form) = o) ∨
      ∃ x, Dispatch.entered? operation form w = some x ∧
        ∃ (toEnding : Except Failure Value × World → Ending × World)
          (toAnswer : Except Failure Value × World → Except Failure Outcome × World),
          ∀ call, ending (Dispatch.perform call operation form) =
              toEnding (call x.engine x.order x.world) ∧
            answer (Dispatch.perform call operation form) =
              toAnswer (call x.engine x.order x.world) := by
  intro message ending answer
  -- how an operation has ended is all that a command and the desk see of it
  have hending {act act' : Act Unit} (h : act w = act' w) : ending act = ending act' :=
    congrArg Program.ended (Command.conclude_congr h _)
  have hanswer {act act' : Act Unit} (h : act w = act' w) : answer act = answer act' :=
    Dispatch.invoke_congr h _
  rcases Dispatch.perform_cases operation form w with ⟨x, hx, hperform⟩ | ⟨-, f, z, hfails, -⟩
  · let left (ended : Except Failure Value × World) : Act Unit :=
      fun _ => Dispatch.leave operation x.files ended
    exact .inr ⟨x, hx, fun ended => ending (left ended), fun ended => answer (left ended),
      fun call => ⟨hending (hperform call), hanswer (hperform call)⟩⟩
  · let failed : Act Unit := fun _ => (.error f, z)
    exact .inl ⟨ending failed, answer failed,
      fun call => ⟨hending (hfails call), hanswer (hfails call)⟩⟩

namespace Program.Campaigning

variable {argv : List Text} {w v : World} {settings : Settings} {operation : Campaign}
  {payload : Entries} {changes : List (Form.Field × Value)}

/-- A command does its work in a mild world. -/
theorem mild (h : Campaigning argv w v settings operation payload changes) (hw : w.Mild) :
    (atWork v settings).Mild := by
  obtain ⟨_, _, _, _, -, hbegin, -⟩ := h
  exact atWork_mild hbegin hw

/-- The form that the desk makes of the payload with the changes is the changed form. -/
theorem form (h : Campaigning argv w v settings operation payload changes) :
    Form.ofPayload? (.dict (Form.overlaid payload changes)) =
      (Form.ofPayload? (.dict payload)).map fun f => f.changed changes := by
  obtain ⟨_, _, _, _, -, -, -, hcampaign, -⟩ := h
  exact Form.ofPayload?_overlaid (Command.changes_plain hcampaign)

end Program.Campaigning

/-- **The command line and the desk do the same.** Take a call on a campaign, in a world in which no
fault of the system, no working directory and no announced engine asks to stop, and an engine that
returns what it likes or fails without asking to stop. Let the desk be asked, from the world in which
the command does its work, for the same operation on the payload with the values of the options put
over it. Then

* the call ends with zero if the desk answers with a success, and with one if not;
* both leave the same files, apart from what is logged;
* either neither comes to an engine call, whatever the engine, or both call the same engine with the
  same order in the same world, files included, and go on from how that call ends. -/
theorem command_and_desk_agree {call : Dispatch.Call} (hcall : ∀ e order, Act.Mild (call e order))
    {argv : List Text} {w v : World} (hw : w.Mild) {settings : Settings} {operation : Campaign}
    {payload : Entries} {changes : List (Form.Field × Value)}
    (h : Program.Campaigning argv w v settings operation payload changes) :
    let start := Program.atWork v settings
    let form := Form.ofPayload? (.dict (Form.overlaid payload changes))
    (∃ o u, Desk.ask call operation form start = (.ok o, u) ∧
      (o.success = .bool true ∧ (Program.callWith call argv w).1.status = 0 ∨
        o.success = .bool false ∧ (Program.callWith call argv w).1.status = 1) ∧
      (Program.callWith call argv w).2.SameFiles u) ∧
    ((∃ ending answer, ∀ call, Program.callWith call argv w = ending ∧
        Desk.ask call operation form start = answer) ∨
      ∃ filled x, form = .ok filled ∧ Dispatch.entered? operation filled start = some x ∧
        ∃ (toEnding : Except Failure Value × World → Ending × World)
          (toAnswer : Except Failure Value × World → Except Failure Outcome × World),
          ∀ call, Program.callWith call argv w = toEnding (call x.engine x.order x.world) ∧
            Desk.ask call operation form start = toAnswer (call x.engine x.order x.world)) := by
  intro start form
  have hwhole (call : Dispatch.Call) := Program.callWith_campaign h call
  have hform : form = (Form.ofPayload? (.dict payload)).map fun f => f.changed changes := h.form
  rcases hpayload : Form.ofPayload? (.dict payload) with f | given <;>
    rw [hpayload] at hform <;> simp only [hpayload] at hwhole
  · -- there is no form, and both fail where they start, whatever the engine
    have hf : f.kind.isOrdinary = true := Form.ofPayload?_ordinary (.dict payload) f hpayload
    obtain ⟨o, u, hanswer, hfalse, hone, hfiles⟩ :=
      ended_and_invoke_refused hf (Desk.successMessage operation) start
    have hask (call : Dispatch.Call) : Desk.ask call operation form start = (.ok o, u) := by
      rw [hform]
      exact hanswer
    rw [← hwhole call] at hone hfiles
    exact ⟨⟨o, u, hask call, .inr ⟨hfalse, hone⟩, hfiles⟩,
      .inl ⟨_, _, fun call => ⟨hwhole call, hask call⟩⟩⟩
  · -- both conclude the operation on the changed form
    have hask (call : Dispatch.Call) : Desk.ask call operation form start =
        Desk.invoke (Dispatch.perform call operation (given.changed changes))
          (Desk.successMessage operation) start := by
      rw [hform]
      rfl
    have hordinary :=
      (Dispatch.perform_mild hcall operation (given.changed changes) start (h.mild hw)).2
    obtain ⟨e, v', o, u, hended, hanswer, hagree, hfiles⟩ :=
      conclude_and_invoke_agree hordinary operation
    refine ⟨⟨o, u, (hask call).trans hanswer, ?_, ?_⟩, ?_⟩
    · rw [hwhole call, hended]
      exact hagree
    · rw [hwhole call, hended]
      exact hfiles
    · rcases conclude_and_invoke_call operation (given.changed changes) start with
        ⟨ending, answer, hnone⟩ | ⟨x, hx, toEnding, toAnswer, hcalls⟩
      · exact .inl ⟨ending, answer, fun call =>
          ⟨(hwhole call).trans (hnone call).1, (hask call).trans (hnone call).2⟩⟩
      · exact .inr ⟨given.changed changes, x, hform, hx, toEnding, toAnswer, fun call =>
          ⟨(hwhole call).trans (hcalls call).1, (hask call).trans (hcalls call).2⟩⟩

/-- The sample world with a request file and an engine in use. -/
def Sample.requested : World := { Sample.world with
  store := Sample.world.store.put ["tmp", "campaign.json"]
    (.file (Utf8.ascii "\x7b\"envPath\": \"mail.json\", \"previewPort\": 80\x7d"))
  registry := ⟨some (.scripted none), []⟩ }

/-- A call that has the request file previewed at another port. -/
def Sample.argv : List Text := ["--verbose", "preview", "campaign.json", "--port", "9000"]

/-- Whether words were read as one command. -/
def Sample.asksFor (command : Command) : Except Usage (Asked Command) → Bool
  | .ok (.something c) => decide (c = command)
  | _ => false

/-- Whether a document was read as an object. -/
def Sample.isObject : Except Failure Value → Bool
  | .ok (.dict _) => true
  | _ => false

theorem Sample.eq_of_asksFor {command : Command} {read : Except Usage (Asked Command)}
    (h : asksFor command read = true) : read = .ok (.something command) := by
  rcases read with u | _ | _ | c
  · cases h
  · cases h
  · cases h
  · rw [show c = command from of_decide_eq_true h]

theorem Sample.exists_of_isObject {read : Except Failure Value} (h : isObject read = true) :
    ∃ payload, read = .ok (.dict payload) := by
  rcases read with f | value
  · cases h
  · cases value with
    | dict payload => exact ⟨payload, rfl⟩
    | _ => cases h

/-- The call ends with zero, and the desk answers with a success. -/
theorem command_and_desk_agree_sample :
    let call : Dispatch.Call := fun _ _ => pure .null
    ∃ v settings payload, (∀ e order, Act.Mild (call e order)) ∧ Sample.requested.Mild ∧
      Program.Campaigning Sample.argv Sample.requested v settings .preview payload
        [(.previewPort, .int 9000)] ∧
      (Program.callWith call Sample.argv Sample.requested).1.status = 0 ∧
      ∃ o u, Desk.ask call .preview
          (Form.ofPayload? (.dict (Form.overlaid payload [(.previewPort, .int 9000)])))
          (Program.atWork v settings) = (.ok o, u) ∧ o.success = .bool true := by
  intro call
  have hcall : ∀ e order, Act.Mild (call e order) := fun _ _ => Mild.pure _
  have hw : Sample.requested.Mild := ⟨List.forall_mem_nil _, ordinary_ok _, List.forall_mem_nil _⟩
  -- the settings, the command and the request file can be read
  have hsettings : (Command.begin true Sample.requested).1.toOption.any Except.isOk = true := by
    decide +kernel
  have hcommand : Sample.asksFor (.preview "campaign.json" (some 9000))
      (Command.ofWords? (Command.begin true Sample.requested).2.store "preview"
        ["campaign.json", "--port", "9000"]) = true := by decide +kernel
  have hfile : ((Command.begin true Sample.requested).2.store.readText?
      (.ofText "campaign.json")).toOption.any (fun text =>
        Sample.isObject (Json.parseWithin? (Command.begin true Sample.requested).2.host.reading text)) =
        true := by decide +kernel
  rcases hbegin : Command.begin true Sample.requested with ⟨f | f | settings, v⟩ <;>
    rw [hbegin] at hsettings hcommand hfile
  · cases hsettings
  · cases hsettings
  have hwords := Sample.eq_of_asksFor hcommand
  rcases hread : v.store.readText? (.ofText "campaign.json") with f | text <;> rw [hread] at hfile
  · cases hfile
  obtain ⟨payload, hparse⟩ := Sample.exists_of_isObject hfile
  have hcalled : Program.Campaigning Sample.argv Sample.requested v settings .preview payload
      [(.previewPort, .int 9000)] :=
    ⟨⟨true, "preview", ["campaign.json", "--port", "9000"]⟩, .preview "campaign.json" (some 9000),
      "campaign.json", text, rfl, hbegin, hwords, rfl, hread, hparse⟩
  have hzero : (Program.callWith call Sample.argv Sample.requested).1.status = 0 := by decide +kernel
  obtain ⟨⟨o, u, hanswer, hagree, -⟩, -⟩ := command_and_desk_agree hcall hw hcalled
  refine ⟨v, settings, payload, hcall, hw, hcalled, hzero, o, u, hanswer, ?_⟩
  rcases hagree with ⟨htrue, -⟩ | ⟨-, hone⟩
  · exact htrue
  · rw [hzero] at hone
    cases hone

end CampaignDesk
