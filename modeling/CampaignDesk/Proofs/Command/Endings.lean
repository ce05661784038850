import CampaignDesk.Proofs.Command.Agreement
import CampaignDesk.Proofs.Dispatch.Leaving
import CampaignDesk.Proofs.Order.Refusals

/-!
# How a call on a campaign ends

A call on a campaign is meant to end in one of three ways: with a success, with a complaint about its
request file, or with a failure that is told. It falls short of that in five cases.

* `Command.contents`: what the bytes of a request file come to.
* `Program.Meant`: the three ways. `Program.Escaping`: the five cases in which a failure gets past the
  call instead. `Meant.not_escaping`: no call is in both.
* `Dispatch.told_of_entered`: **a failure that comes once the engine is called is told.**
* `Program.campaign_ends`: **whatever the request file holds, a call ends as it is meant to, or a failure
  gets past it in one of the five cases.**
* `Program.campaign_falls_short`: each of the five cases occurs.
-/

namespace CampaignDesk

open World Act

/-! ## What a request file holds -/

namespace Command

/-- What the bytes of a request file come to: a payload, a complaint, bytes that are no text, or a text
beyond what can be read. -/
inductive Contents
  | payload (entries : Entries)
  | wrong (complaint : Text)
  | noText (f : Failure)
  | beyond (f : Failure)

/-- A request file is complained about if it is no JSON, or no object. Bytes that are no text are a failure, and
so are numbers with too many digits and values nested too deep for a reader with some room. -/
def contents (room : Nat) (path : PathForm) (bytes : Bytes) : Contents :=
  match textOfBytes? bytes with
  | .error f => .noText f
  | .ok text =>
    match Json.parseWithin? room text with
    | .ok (.dict entries) => .payload entries
    | .ok _ => .wrong (path.toText ++ (" must contain a JSON object" : Text))
    | .error f =>
      if f.kind = .jsonDecodeError then
        .wrong (path.toText ++ (" is not valid JSON: " : Text) ++ f.message)
      else .beyond f

variable {file : Text} {path : PathForm} {bytes : Bytes} {w : World} {room : Nat}

/-- A request file that is no text fails to be read for its encoding. -/
theorem contents_noText {f : Failure} (h : contents room path bytes = .noText f) :
    f.kind = .unicodeDecodeError := by
  unfold contents at h
  rcases htext : textOfBytes? bytes with g | text <;> rw [htext] at h
  · cases h
    unfold textOfBytes? at htext
    rcases hbytes : Utf8.decode? bytes with fault | decoded <;> rw [hbytes] at htext <;> cases htext
    rfl
  · dsimp only at h
    split at h
    · cases h
    · cases h
    · split at h <;> cases h

/-- A request file is beyond what can be read for a number with too many digits or for nesting too deep. -/
theorem contents_beyond {f : Failure} (h : contents room path bytes = .beyond f) :
    f.kind = .valueError ∨ f.kind = .recursionError := by
  unfold contents at h
  rcases htext : textOfBytes? bytes with g | text <;> rw [htext] at h
  · cases h
  rcases hparse : Json.parseWithin? room text with g | value <;> simp only [hparse] at h
  · by_cases hkind : g.kind = .jsonDecodeError
    · rw [if_pos hkind] at h
      cases h
    · rw [if_neg hkind] at h
      cases h
      -- of the faults in a JSON text only two are no faults of its grammar
      unfold Json.parseWithin? at hparse
      rcases hread : Json.readWithin room text with (_ | _ | _) | value <;> rw [hread] at hparse <;>
        cases hparse
      · exact absurd rfl hkind
      · exact .inl rfl
      · exact .inr rfl
  · cases value <;> cases h

/-- **What a command makes of its request file.** -/
theorem request_eq (hread : w.store.read? (PathForm.ofText file).toText = .ok bytes) :
    request file w = match contents w.host.reading (.ofText file) bytes with
      | .payload entries => (.ok (.ok entries), w)
      | .wrong complaint => (.ok (.error (.invalidValue none complaint)), w)
      | .noText f | .beyond f => (.error f, w) := by
  have htext : w.store.readText? (.ofText file) = textOfBytes? bytes := by
    rw [Store.readText?, hread]
    rfl
  rw [request, Act.bind_apply, Act.get_apply]
  simp only [htext, Act.bind_apply, settle_apply, contents]
  rcases textOfBytes? bytes with f | text
  · rfl
  dsimp only
  rcases Json.parseWithin? w.host.reading text with f | v
  · by_cases hkind : f.kind = .jsonDecodeError
    · simp only [hkind, if_true]
      rfl
    · simp only [hkind, if_false]
      rfl
  · cases v <;> rfl

end Command

/-! ## Failures that are told -/

namespace Dispatch

variable {operation : Campaign} {form : Form} {w : World} {x : Entered}

/-- The engine is called in a world in which nothing asks to stop, if nothing did before. -/
theorem Entered.mild (h : entered? operation form w = some x) (hw : w.Mild) : x.world.Mild := by
  unfold entered? at h
  have hprepared := (Preparation.prepare_mild form (.bool (operation = .preview)) w.service.tempDir w hw).1
  rcases hprep : Preparation.prepare form (.bool (operation = .preview)) w.service.tempDir w with
    ⟨f | ⟨order, files⟩, v⟩ <;> rw [hprep] at h hprepared
  · cases h
  have hannounce : Act.Mild (announce (operationName operation)) :=
    (Act.Mild.note _).bind fun _ => engine_mild
  have hannounced := (hannounce v hprepared).1
  simp only at h
  rcases hann : announce (operationName operation) v with ⟨f | e, u⟩ <;> rw [hann] at h hannounced <;>
    cases h
  exact hannounced

/-- **A failure that comes once the engine is called is told**, as long as the system fails with errors
of its own only: what the engine failed with becomes a failure of the desk, and the files of the order
are removed without one. -/
theorem told_of_entered (h : entered? operation form w = some x)
    (call : Call) (hordinary : Ordinary (call x.engine x.order x.world).1)
    (hsystem : (call x.engine x.order x.world).2.SystemFaults) {f : Failure}
    (hfailed : (perform call operation form w).1 = .error f) : Command.isTold f = true := by
  have hperform : perform call operation form w =
      leave operation x.files (call x.engine x.order x.world) := by
    rcases perform_cases operation form w with ⟨y, hy, hperform⟩ | ⟨hnone, -⟩
    · cases h.symm.trans hy
      exact hperform call
    · cases h.symm.trans hnone
  have hdrafted := Entered.drafted h
  obtain ⟨attempts, u, hleave, -⟩ :=
    leave_apply operation hdrafted.unreleased hdrafted.clean _ hsystem.removal
  rw [hperform, hleave] at hfailed
  rcases houtcome : (call x.engine x.order x.world).1 with g | returned <;> rw [houtcome] at hfailed
  · cases hfailed
    rw [Command.isTold, passedOn_isDesk (hordinary g houtcome), Bool.true_or]
  · cases hfailed

end Dispatch

/-! ## What is printed -/

namespace Console

/-- What is said of an answer that has no bytes. -/
def unprintable (fault : Utf8.EncodeFault) (hint : Text) : Failure :=
  { Failure.unencodable fault with message := (Failure.unencodable fault).message ++ hint }

/-- The world once an answer has been printed. -/
def answered (t : Text) (w : World) : World := { w with out := w.out ++ t }

/-- **An answer is printed, or has no bytes and is refused.** -/
theorem print_apply (t hint : Text) (w : World) :
    print t hint w = match Utf8.encode? t with
      | .ok _ => (.ok (), answered t w)
      | .error fault => (.error (unprintable fault hint), w) := by
  rw [print]
  rcases Utf8.encode? t with fault | bytes
  · rfl
  · rfl

end Console

/-! ## How calls end -/

namespace Program

/-- A call that names a command on a campaign, with settings that can be used and a request file that can
be opened: `w` is the world before, `v` the one once the settings are read and the log is set up. -/
def Requesting (argv : List Text) (w v : World) (settings : Settings) (operation : Campaign)
    (path : PathForm) (changes : List (Form.Field × Value)) (bytes : Bytes) : Prop :=
  ∃ named command file, Command.named? argv = .ok (.something named) ∧
    Command.begin named.verbose w = (.ok (.ok settings), v) ∧
    Command.ofWords? v.store named.name named.words = .ok (.something command) ∧
    command.onCampaign? = some (operation, file, changes) ∧ path = .ofText file ∧
    v.store.read? path.toText = .ok bytes

section Ends

variable (call : Dispatch.Call) (operation : Campaign) (path : PathForm)
  (changes : List (Form.Field × Value)) (bytes : Bytes) (start : World)

/-- The request file gives a form, and the operation on it, changed as the options say, ends so. -/
def Operates (outcome : Except Failure Unit) (u : World) : Prop :=
  ∃ payload form, Command.contents start.host.reading path bytes = .payload payload ∧
    Form.ofPayload? (.dict payload) = .ok form ∧
    Dispatch.perform call operation (form.changed changes) start = (outcome, u)

/-- **The three ways in which a call on a campaign is meant to end**: with two and a complaint if its
request file is no JSON object, with zero and a line of success if its operation went well, and with one
and a line of failure if its operation failed. As everywhere, the lines in front of the complaint that tell how
the program is used are left out. -/
inductive Meant : Ending × World → Prop
  | misused {complaint : Text}
      (hcontents : Command.contents start.host.reading path bytes = .wrong complaint) :
      Meant (⟨2, none⟩, { start with
        err := start.err ++ (("Error: " : Text) ++ (("Invalid value: " : Text) ++ complaint)) ++
          ("\n" : Text) })
  | done {u : World} (hrun : Operates call operation path changes bytes start (.ok ()) u) :
      Meant (⟨0, none⟩, Console.answered
        (Console.line .success (Text.ofString (Desk.successMessage operation)) u.host.terminal) u)
  | told {f : Failure} {u : World} {printed : Bytes}
      (hrun : Operates call operation path changes bytes start (.error f) u)
      (htold : Command.isTold f = true)
      (hprinted : Utf8.encode? (Console.line .failure f.message u.host.terminal) = .ok printed) :
      Meant (⟨1, none⟩, Console.answered (Console.line .failure f.message u.host.terminal) u)

/-- **The five cases in which a failure gets past a call on a campaign**: the request file cannot be read as
text, or has a number with too many digits or values nested too deep, its payload gives no form, the operation
fails with what is neither a failure of the desk nor a value out of place, or the failure that is to be told
cannot be printed. -/
inductive Escaping : Failure → World → Prop
  | unread {f : Failure} (hcontents : Command.contents start.host.reading path bytes = .noText f) :
      Escaping f start
  | beyond {f : Failure} (hcontents : Command.contents start.host.reading path bytes = .beyond f) :
      Escaping f start
  | formless {payload : Entries} {f : Failure}
      (hcontents : Command.contents start.host.reading path bytes = .payload payload)
      (hform : Form.ofPayload? (.dict payload) = .error f) : Escaping f start
  | untold {f : Failure} {u : World}
      (hrun : Operates call operation path changes bytes start (.error f) u)
      (htold : Command.isTold f = false) : Escaping f u
  | unprintable {f : Failure} {u : World} {fault : Utf8.EncodeFault}
      (hrun : Operates call operation path changes bytes start (.error f) u)
      (htold : Command.isTold f = true)
      (hfault : Utf8.encode? (Console.line .failure f.message u.host.terminal) = .error fault) :
      Escaping (Console.unprintable fault Console.encodingHint) u

end Ends

variable {call : Dispatch.Call} {argv : List Text} {w v start u u' : World} {settings : Settings}
  {operation : Campaign} {path : PathForm} {changes : List (Form.Field × Value)} {bytes : Bytes}
  {outcome outcome' : Except Failure Unit}

/-- An operation ends in one way only. -/
theorem Operates.unique (h : Operates call operation path changes bytes start outcome u)
    (h' : Operates call operation path changes bytes start outcome' u') : outcome = outcome' ∧ u = u' := by
  obtain ⟨payload, form, hcontents, hform, hrun⟩ := h
  obtain ⟨payload', form', hcontents', hform', hrun'⟩ := h'
  cases hcontents.symm.trans hcontents'
  cases hform.symm.trans hform'
  exact Prod.mk.inj (hrun.symm.trans hrun')

/-- **A call that ends as it is meant to lets no failure past it**: what the request file holds and how
the operation ends decide between the two. -/
theorem Meant.not_escaping {r : Ending × World} {f : Failure}
    (h : Meant call operation path changes bytes start r) :
    ¬ Escaping call operation path changes bytes start f u := by
  -- an operation is run only for a payload that gives a form
  have hpayload {outcome u} (hrun : Operates call operation path changes bytes start outcome u) :
      ∃ payload form, Command.contents start.host.reading path bytes = .payload payload ∧
        Form.ofPayload? (.dict payload) = .ok form := by
    obtain ⟨payload, form, hcontents, hform, -⟩ := hrun
    exact ⟨payload, form, hcontents, hform⟩
  intro hescaping
  cases hescaping with
  | unread hcontents | beyond hcontents =>
    cases h with
    | misused hwrong => cases hcontents.symm.trans hwrong
    | done hrun | told hrun =>
      obtain ⟨_, _, hread, -⟩ := hpayload hrun
      cases hcontents.symm.trans hread
  | formless hcontents hform =>
    cases h with
    | misused hwrong => cases hcontents.symm.trans hwrong
    | done hrun | told hrun =>
      obtain ⟨_, _, hread, hgiven⟩ := hpayload hrun
      cases hcontents.symm.trans hread
      cases hform.symm.trans hgiven
  | untold hrun htold =>
    cases h with
    | misused hwrong =>
      obtain ⟨_, _, hread, -⟩ := hpayload hrun
      cases hwrong.symm.trans hread
    | done hrun' => cases (hrun.unique hrun').1
    | told hrun' htold' =>
      cases (hrun.unique hrun').1
      cases htold.symm.trans htold'
  | unprintable hrun htold hfault =>
    cases h with
    | misused hwrong =>
      obtain ⟨_, _, hread, -⟩ := hpayload hrun
      cases hwrong.symm.trans hread
    | done hrun' => cases (hrun.unique hrun').1
    | told hrun' _ hprinted =>
      obtain ⟨hfailure, rfl⟩ := hrun.unique hrun'
      cases hfailure
      cases hfault.symm.trans hprinted

/-! ## Calls on campaigns -/

/-- How an operation is concluded: with a line of success or of failure, or with a failure that is not
told or cannot be told. -/
theorem concluded_cases (act : Act Unit) (operation : Campaign) (w : World) :
    (∃ u, act w = (.ok (), u) ∧
      Command.conclude act (Text.ofString (Desk.successMessage operation)) w =
        (.ok 0, Console.answered
          (Console.line .success (Text.ofString (Desk.successMessage operation)) u.host.terminal) u)) ∨
    ∃ f u, act w = (.error f, u) ∧
      ((Command.isTold f = false ∧
        Command.conclude act (Text.ofString (Desk.successMessage operation)) w = (.error f, u)) ∨
      (Command.isTold f = true ∧ ∃ printed,
        Utf8.encode? (Console.line .failure f.message u.host.terminal) = .ok printed ∧
        Command.conclude act (Text.ofString (Desk.successMessage operation)) w =
          (.ok 1, Console.answered (Console.line .failure f.message u.host.terminal) u)) ∨
      (Command.isTold f = true ∧ ∃ fault,
        Utf8.encode? (Console.line .failure f.message u.host.terminal) = .error fault ∧
        Command.conclude act (Text.ofString (Desk.successMessage operation)) w =
          (.error (Console.unprintable fault Console.encodingHint), u))) := by
  unfold Command.conclude
  rw [bind_ok (attempt_apply act w)]
  rcases hrun : act w with ⟨f | _, u⟩
  · refine .inr ⟨f, u, rfl, ?_⟩
    dsimp only
    by_cases htold : Command.isTold f = true
    · rw [if_pos htold, Act.bind_apply, Console.say_apply, Console.print_apply]
      rcases hprinted : Utf8.encode? (Console.line .failure f.message u.host.terminal) with fault | printed
      · exact .inr (.inr ⟨htold, fault, rfl, rfl⟩)
      · exact .inr (.inl ⟨htold, printed, rfl, rfl⟩)
    · rw [if_neg htold]
      exact .inl ⟨Bool.eq_false_iff.2 htold, rfl⟩
  · refine .inl ⟨u, rfl, ?_⟩
    obtain ⟨printed, hprinted⟩ := Console.encode?_successMessage operation u.host.terminal
    dsimp only
    rw [Act.bind_apply, Console.say_apply, Console.print_apply, hprinted]
    rfl

/-- A call with a request file that can be opened is decided by what the file holds. -/
theorem callWith_contents (h : Requesting argv w v settings operation path changes bytes)
    (call : Dispatch.Call) :
    callWith call argv w = match Command.contents v.host.reading path bytes with
      | .noText f | .beyond f => ending f (atWork v settings)
      | .wrong complaint => (⟨2, none⟩, { atWork v settings with
          err := v.err ++ (("Error: " : Text) ++ (("Invalid value: " : Text) ++ complaint)) ++
            ("\n" : Text) })
      | .payload payload => ended (match Form.ofPayload? (.dict payload) with
        | .error f => (.error f, atWork v settings)
        | .ok form => Command.conclude (Dispatch.perform call operation (form.changed changes))
            (Text.ofString (Desk.successMessage operation)) (atWork v settings)) := by
  obtain ⟨named, command, file, hnamed, hbegin, hwords, hcampaign, rfl, hread⟩ := h
  have hrequest := Command.request_eq (w := atWork v settings) hread
  rw [show (atWork v settings).host = v.host from rfl] at hrequest
  rw [callWith_onCampaign hnamed hbegin hwords hcampaign, Command.campaign, Act.bind_apply, hrequest]
  rcases Command.contents v.host.reading (.ofText file) bytes with payload | complaint | f | f
  · simp only [Act.bind_apply, settle_apply]
    rcases Form.ofPayload? (.dict payload) with f | form <;> rfl
  · rfl
  · rfl
  · rfl

/-- **A call ends as it is meant to, or a failure gets past it.** -/
theorem meant_or_escaping (h : Requesting argv w v settings operation path changes bytes)
    (call : Dispatch.Call) :
    Meant call operation path changes bytes (atWork v settings) (callWith call argv w) ∨
      ∃ f u, Escaping call operation path changes bytes (atWork v settings) f u ∧
        callWith call argv w = ending f u := by
  rw [callWith_contents h call]
  rcases hcontents : Command.contents v.host.reading path bytes with payload | complaint | f | f
  · dsimp only
    rcases hform : Form.ofPayload? (.dict payload) with f | form
    · exact .inr ⟨f, _, .formless hcontents hform, rfl⟩
    dsimp only
    rcases concluded_cases (Dispatch.perform call operation (form.changed changes)) operation
        (atWork v settings) with ⟨u, hrun, hconcluded⟩ | ⟨f, u, hrun, hfailed⟩
    · rw [hconcluded]
      exact .inl (.done ⟨payload, form, hcontents, hform, hrun⟩)
    · have hoperates : Operates call operation path changes bytes (atWork v settings) (.error f) u :=
        ⟨payload, form, hcontents, hform, hrun⟩
      rcases hfailed with ⟨htold, hconcluded⟩ | ⟨htold, printed, hprinted, hconcluded⟩ |
          ⟨htold, fault, hfault, hconcluded⟩ <;> rw [hconcluded]
      · exact .inr ⟨f, u, .untold hoperates htold, rfl⟩
      · exact .inl (.told hoperates htold hprinted)
      · exact .inr ⟨_, u, .unprintable hoperates htold hfault, rfl⟩
  · exact .inl (.misused hcontents)
  · exact .inr ⟨f, _, .unread hcontents, rfl⟩
  · exact .inr ⟨f, _, .beyond hcontents, rfl⟩

/-- A command on a campaign does its work in a mild world. -/
theorem Requesting.mild (h : Requesting argv w v settings operation path changes bytes)
    (hw : w.Mild) : (atWork v settings).Mild := by
  obtain ⟨_, _, _, -, hbegin, -⟩ := h
  exact atWork_mild hbegin hw

/-- A failure that gets past a call does not ask to stop, if no engine does. -/
theorem Escaping.isOrdinary {f : Failure}
    (h : Escaping call operation path changes bytes start f u)
    (hcall : ∀ e order, Act.Mild (call e order)) (hstart : start.Mild) :
    f.kind.isOrdinary = true := by
  cases h with
  | unread hcontents => rw [Command.contents_noText hcontents]; rfl
  | beyond hcontents =>
    rcases Command.contents_beyond hcontents with hkind | hkind <;> rw [hkind] <;> rfl
  | formless hcontents hform => exact Form.ofPayload?_ordinary _ f hform
  | untold hrun htold =>
    obtain ⟨payload, form, -, -, hperform⟩ := hrun
    have hordinary :=
      (Dispatch.perform_mild hcall operation (form.changed changes) start hstart).2
    rw [hperform] at hordinary
    exact hordinary f rfl
  | unprintable => rfl

/-- **How a call on a campaign ends.** Take a call on a campaign, whatever its request file holds, in a
world in which nothing asks to stop, and an engine that returns what it likes or fails without asking to
stop. Then

* the call ends in one of the three ways that are meant, or a failure gets past it in one of the five
  cases, with status one; and never both;
* what is complained about in a request file is so whatever the engine, which is not called;
* once the engine is called, a failure is one that is told, as long as the system fails with errors of
  its own only; so then a failure gets past the call only if it cannot be printed. -/
theorem campaign_ends (h : Requesting argv w v settings operation path changes bytes)
    (hcall : ∀ e order, Act.Mild (call e order)) (hw : w.Mild) :
    let start := atWork v settings
    let r := callWith call argv w
    ((Meant call operation path changes bytes start r ∧
        ∀ f u, ¬ Escaping call operation path changes bytes start f u) ∨
      (¬ Meant call operation path changes bytes start r ∧
        ∃ f u, Escaping call operation path changes bytes start f u ∧ r = ending f u ∧
          r.1.status = 1 ∧ u.Printed r.2)) ∧
    (∀ complaint, Command.contents start.host.reading path bytes = .wrong complaint →
      r.1 = ⟨2, none⟩ ∧ ∀ other, callWith other argv w = r) ∧
    (∀ payload form x, Command.contents start.host.reading path bytes = .payload payload →
      Form.ofPayload? (.dict payload) = .ok form →
      Dispatch.entered? operation (form.changed changes) start = some x →
      (call x.engine x.order x.world).2.SystemFaults →
      ∀ f u, Operates call operation path changes bytes start (.error f) u →
        Command.isTold f = true) := by
  intro start r
  refine ⟨?_, ?_, ?_⟩
  · rcases meant_or_escaping h call with hmeant | ⟨f, u, hescaping, hended⟩
    · exact .inl ⟨hmeant, fun f u => hmeant.not_escaping⟩
    · obtain ⟨hstatus, hprinted⟩ := ending_ordinary (hescaping.isOrdinary hcall (h.mild hw)) u
      have hr : r = ending f u := hended
      refine .inr ⟨fun hmeant => hmeant.not_escaping hescaping, f, u, hescaping, hr, ?_, ?_⟩
      · rw [hr]
        exact hstatus
      · rw [hr]
        exact hprinted
  · intro complaint hwrong
    have hall (other : Dispatch.Call) := callWith_contents h other
    have hcontents : Command.contents v.host.reading path bytes = .wrong complaint := hwrong
    simp only [hcontents] at hall
    refine ⟨congrArg Prod.fst (hall call), fun other => (hall other).trans (hall call).symm⟩
  · intro payload form x hcontents hform hentered hsystem f u hrun
    obtain ⟨payload', form', hcontents', hform', hperform⟩ := hrun
    cases hcontents.symm.trans hcontents'
    cases hform.symm.trans hform'
    have hordinary : Ordinary (call x.engine x.order x.world).1 :=
      (hcall x.engine x.order x.world (Dispatch.Entered.mild hentered (h.mild hw))).2
    exact Dispatch.told_of_entered hentered call hordinary hsystem (congrArg Prod.fst hperform)

end Program

/-- The sample world with an engine in use and a request file. -/
def Sample.holding (bytes : Bytes) : World := { Sample.world with
  store := Sample.world.store.put ["tmp", "campaign.json"] (.file bytes)
  registry := ⟨some (.scripted none), []⟩ }

/-- A request file that names the mail server configuration. -/
def Sample.request : Bytes := Utf8.ascii "\x7b\"envPath\": \"mail.json\"\x7d"

namespace Program

/-- A call that runs the campaign of a good request file ends with zero, as it is meant to. -/
theorem campaign_ends_sample :
    let call : Dispatch.Call := fun _ _ => pure .null
    ∃ v settings, (∀ e order, Act.Mild (call e order)) ∧ (Sample.holding Sample.request).Mild ∧
      Requesting ["run", "campaign.json"] (Sample.holding Sample.request) v settings .run
        (.ofText "campaign.json") [] Sample.request ∧
      Meant call .run (.ofText "campaign.json") [] Sample.request (atWork v settings)
        (callWith call ["run", "campaign.json"] (Sample.holding Sample.request)) ∧
      (callWith call ["run", "campaign.json"] (Sample.holding Sample.request)).1.status = 0 := by
  intro call
  have hcall : ∀ e order, Act.Mild (call e order) := fun _ _ => Act.Mild.pure _
  have hw : (Sample.holding Sample.request).Mild :=
    ⟨List.forall_mem_nil _, ordinary_ok _, List.forall_mem_nil _⟩
  -- the settings, the command and the request file can be read
  have hsettings : (Command.begin false (Sample.holding Sample.request)).1.toOption.any Except.isOk =
      true := by decide +kernel
  have hcommand : Sample.asksFor (.run "campaign.json" false)
      (Command.ofWords? (Command.begin false (Sample.holding Sample.request)).2.store "run"
        ["campaign.json"]) = true := by decide +kernel
  have hfile : ((Command.begin false (Sample.holding Sample.request)).2.store.read?
      (PathForm.ofText "campaign.json").toText).toOption = some Sample.request := by decide +kernel
  rcases hbegin : Command.begin false (Sample.holding Sample.request) with ⟨f | f | settings, v⟩ <;>
    rw [hbegin] at hsettings hcommand hfile
  · cases hsettings
  · cases hsettings
  have hwords := Sample.eq_of_asksFor hcommand
  rcases hread : v.store.read? (PathForm.ofText "campaign.json").toText with f | bytes <;>
    rw [hread] at hfile <;> cases hfile
  have hcalled : Requesting ["run", "campaign.json"] (Sample.holding Sample.request) v settings .run
      (.ofText "campaign.json") [] Sample.request :=
    ⟨⟨false, "run", ["campaign.json"]⟩, .run "campaign.json" false, "campaign.json", rfl, hbegin,
      hwords, rfl, rfl, hread⟩
  have hzero : (callWith call ["run", "campaign.json"] (Sample.holding Sample.request)).1.status = 0 := by
    decide +kernel
  refine ⟨v, settings, hcall, hw, hcalled, ?_, hzero⟩
  rcases (campaign_ends hcalled hcall hw).1 with ⟨hmeant, -⟩ | ⟨-, f, u, -, -, hone, -⟩
  · exact hmeant
  · cases hzero.symm.trans hone

/-- **Failures do get past calls**, with nothing printed: for a request file that is no text, for one of
brackets inside each other, for attachments that are a number, for a mail server configuration that is a
number, and for one whose name cannot be printed. -/
theorem campaign_falls_short :
    let escaped (bytes : Bytes) :=
      let r := callWith (fun _ _ => pure .null) ["run", "campaign.json"] (Sample.holding bytes)
      (r.1.failure.map (·.kind), r.2.out, r.2.err)
    escaped [0xFF] = (some .unicodeDecodeError, [], []) ∧
    escaped (List.replicate 1000 0x5B) = (some .recursionError, [], []) ∧
    escaped (Utf8.ascii "\x7b\"attachments\": 5\x7d") = (some .typeError, [], []) ∧
    escaped (Utf8.ascii "\x7b\"envPath\": 5\x7d") = (some .attributeError, [], []) ∧
    escaped (Utf8.ascii "\x7b\"envPath\": \"\\ud800\"\x7d") = (some .unicodeEncodeError, [], []) := by
  decide +kernel

end Program

end CampaignDesk
