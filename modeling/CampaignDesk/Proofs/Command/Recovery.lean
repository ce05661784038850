import CampaignDesk.Proofs.Command.Endings
import CampaignDesk.Proofs.Desk.ServerConfig
import CampaignDesk.Proofs.Path.Form

/-!
# Writing fresh settings

A call that asks for fresh settings first reads those that are there and sets up the log, as every call
does.

* `Settings.loadBy?_initialDocument`: **the file that is written holds the initial settings**, for every
  parser that reads it as it was meant.
* `Command.writeSettings_kept`, `Command.writeSettings_forced`: what is done where there are settings.
* `Program.init_recovers`: **fresh settings are written exactly if nothing keeps the call from beginning**,
  whatever the old file holds; a call that is not forced, or is kept from beginning, leaves the old file
  as it is and ends with one.
* `Program.init_falls_short`: some files do keep it from beginning.
-/

namespace CampaignDesk

open World Act

/-! ## The settings file -/

namespace Settings

variable {e : Environment} {s : Store} {home : PathForm} {l : Location}

/-- The settings file in the home of the desk. -/
def fileIn (home : PathForm) : PathForm := home.below (.ofText "config.yaml")

/-- The name of the settings file comes last in its path. -/
theorem fileIn_eq (home : PathForm) :
    fileIn home = ⟨home.root, home.names ++ [Text.ofString "config.yaml"]⟩ := by
  have hname : PathForm.ofText "config.yaml" = ⟨[], [Text.ofString "config.yaml"]⟩ := by
    decide +kernel
  rw [fileIn, hname]
  rfl

/-- The path of the settings file is read as it was written. -/
theorem ofText_fileIn (h : e.home? = .ok home) :
    PathForm.ofText (fileIn home).toText = fileIn home := by
  have hproper : (fileIn home).Proper :=
    (Environment.home?_proper h).below (PathForm.proper_ofText "config.yaml")
  refine hproper.ofText_toText ?_
  rw [fileIn_eq]
  simp

/-- A settings file that can be read can be written too. -/
theorem writable_fileIn {content : Bytes} (h : s.read? (fileIn home).toText = .ok content) :
    ∃ l, Store.Writable s (fileIn home).toText l ∧ s.node? l = some (.file content) := by
  obtain ⟨htaken, l, hlookup⟩ := Store.read?_eq_ok.1 h
  obtain ⟨htakes, hwalk, hnode⟩ := Store.lookup?_eq_ok.1 hlookup
  have hend : (fileIn home).toText.getLast? ≠ some Path.slash := by
    rw [fileIn_eq]
    exact PathForm.getLast?_toText (by decide) (by decide) rfl
  refine ⟨l, ⟨htaken, Store.creation?_eq_ok.2 ⟨htakes, hend, hwalk⟩, ?_⟩, hnode⟩
  rw [hnode]
  exact nofun

/-- A parser reads a new settings file as it was meant. -/
def ReadsInitial (parse : Bytes → Parsed) : Prop :=
  ∀ bytes, Utf8.encode? initialDocument = .ok bytes → parse bytes = .document (.dict initial.entries)

/-- The text of a new settings file has bytes. -/
theorem encode?_initialDocument : ∃ content, Utf8.encode? initialDocument = .ok content := by
  have hbytes : (Utf8.encode? initialDocument).isOk = true := by decide +kernel
  rcases h : Utf8.encode? initialDocument with fault | content <;> rw [h] at hbytes
  · cases hbytes
  · exact ⟨content, rfl⟩

/-- **The file that is written holds the initial settings.** -/
theorem loadBy?_initialDocument {parse : Bytes → Parsed} (hparse : ReadsInitial parse)
    (he : e.home? = .ok home) (h : Store.Writable s (fileIn home).toText l) {bytes : Bytes}
    (hbytes : Utf8.encode? initialDocument = .ok bytes) :
    loadBy? parse e (s.put l (.file bytes)) = .ok initial := by
  have hput := h.put bytes
  have hnode := Store.node?_put_self s l (.file bytes)
  have hread := Store.read?_of_creation? hput.taken hput.leads hnode
  have hlookup := Store.lookup?_of_creation? hput.leads hnode
  have hprobe : (s.put l (.file bytes)).probe? (fileIn home).toText = .ok true := by
    rw [Store.probe?, hput.taken, hlookup]
  have hpath : path? e = .ok (fileIn home) := by
    rw [path?, he]
    rfl
  have hdocument : ofDocument? (fileIn home) (.dict initial.entries) = .ok initial := rfl
  simp only [loadBy?, hpath, readBy?, hprobe, hread, hparse bytes hbytes, ofParsed?, hdocument, bind,
    Except.bind, Bool.not_true, Bool.false_eq_true, if_false]

/-- Whether a file was read as one that says what the initial settings are. -/
def isInitial : Parsed → Bool
  | .document (.dict [(.text a, .null), (.text b, .text x), (.text c, .text y), (.text d, .text z)]) =>
    a = Text.ofString "temp_dir" && b = Text.ofString "log_file" &&
      x = Text.ofString "logs/mailgrid-ui-\x7bdate\x7d.log" && c = Text.ofString "log_level" &&
      y = Text.ofString "INFO" && d = Text.ofString "log_format" && z = Text.ofString "pretty"
  | _ => false

theorem eq_of_isInitial {parsed : Parsed} (h : isInitial parsed = true) :
    parsed = .document (.dict initial.entries) := by
  unfold isInitial at h
  split at h
  · simp only [Bool.and_eq_true, decide_eq_true_eq] at h
    obtain ⟨⟨⟨⟨⟨⟨rfl, rfl⟩, rfl⟩, rfl⟩, rfl⟩, rfl⟩, rfl⟩ := h
    rfl
  · cases h

/-- The parser of YAML that is known here is one of those. -/
theorem readsInitial_yaml : ReadsInitial (.ofText Yaml.read?) := by
  intro bytes hbytes
  have hread : ((Utf8.encode? initialDocument).toOption.map fun bytes =>
      isInitial (.ofText Yaml.read? bytes)) = some true := by decide +kernel
  rw [hbytes] at hread
  exact eq_of_isInitial (Option.some.inj hread)

end Settings

/-! ## Fresh settings -/

namespace Command

variable {w v : World} {home : PathForm} {bytes : Bytes}

/-- What is said of fresh settings. -/
def announcement (home : PathForm) : Text :=
  ("Initialized mailgrid-ui config at " : Text) ++ (Settings.fileIn home).toText ++ ("\n" : Text)

/-- The home of the desk is a directory with a settings file in it, which holds some bytes. -/
structure Configured (w : World) (home : PathForm) (bytes : Bytes) : Prop where
  known : w.environment.home? = .ok home
  directory : w.store.isDirectory home.toText = true
  file : w.store.read? (Settings.fileIn home).toText = .ok bytes

/-- What has been there stays there in a store that has more. -/
theorem Configured.later (h : Configured w home bytes) (hstore : w.store.Extends v.store)
    (henvironment : v.environment = w.environment) : Configured v home bytes :=
  ⟨henvironment ▸ h.known, hstore.isDirectory h.directory, hstore.read? h.file⟩

/-- In a home with settings it depends on the word of force alone what is done. -/
theorem writeSettings_apply (h : Configured w home bytes) (force : Bool) :
    writeSettings force w = (if force then do
        Desk.writeText (Settings.fileIn home).toText Settings.initialDocument
        Console.echo (("Initialized mailgrid-ui config at " : Text) ++ (Settings.fileIn home).toText)
        return 0
      else do
        Console.complain (("Config already exists at " : Text) ++ (Settings.fileIn home).toText ++
          (". Use --force to overwrite." : Text))
        return 1 : Act Int) w := by
  obtain ⟨l, hwritable, hnode⟩ := Settings.writable_fileIn h.file
  have hlookup := Store.lookup?_of_creation? hwritable.leads hnode
  have hprobe : w.store.probe? (Settings.fileIn home).toText = .ok true := by
    rw [Store.probe?, hwritable.taken, hlookup]
  have hmade := Store.makeDirectories?_of_isDirectory h.directory
  rw [writeSettings, Act.bind_apply, Act.get_apply]
  simp only [h.known, Act.bind_apply, settle_apply, hmade, set_apply]
  rw [← Settings.fileIn, hprobe]
  cases force
  · rfl
  · rfl

/-- Settings that are there are kept unless fresh ones are forced. -/
theorem writeSettings_kept (h : Configured w home bytes) :
    ∃ v, writeSettings false w = (.ok 1, v) ∧ v.store = w.store := by
  rw [writeSettings_apply h]
  exact ⟨_, rfl, rfl⟩

/-- Fresh settings that are forced take the place of those that are there. -/
theorem writeSettings_forced (hparse : Settings.ReadsInitial w.host.yaml) (h : Configured w home bytes) :
    ∃ v, Settings.loadBy? v.host.yaml v.environment v.store = .ok Settings.initial ∧ v.out = w.out ∧
      writeSettings true w = match Utf8.encode? (announcement home) with
        | .ok _ => (.ok 0, Console.answered (announcement home) v)
        | .error fault => (.error (Console.unprintable fault []), v) := by
  obtain ⟨l, hwritable, -⟩ := Settings.writable_fileIn h.file
  have hplace : Store.Writable w.store
      (PathForm.ofText (Settings.fileIn home).toText).toText l := by
    rw [Settings.ofText_fileIn h.known]
    exact hwritable
  obtain ⟨content, hcontent⟩ := Settings.encode?_initialDocument
  refine ⟨{ w with store := w.store.put l (.file content) },
    Settings.loadBy?_initialDocument hparse h.known hwritable hcontent, rfl, ?_⟩
  rw [writeSettings_apply h, if_pos rfl, bind_ok (Desk.writeText_writable hplace hcontent)]
  rw [Act.bind_apply, Console.echo, ← announcement, Console.print_apply]
  rcases Utf8.encode? (announcement home) with fault | printed
  · rfl
  · rfl

end Command

/-- The sample world with a home in which there is a settings file. -/
def Sample.configured (bytes : Bytes) : World := { Sample.world with
  environment := ⟨some "home", none⟩
  store := (Sample.world.store.put ["tmp", "home"] .directory).put
    ["tmp", "home", "config.yaml"] (.file bytes) }

namespace Program

open Command (hindrance? announcement Configured)

/-- The call asks for fresh settings. -/
def Inits (argv : List Text) (verbose force : Bool) : Prop :=
  ∃ named, Command.named? argv = .ok (.something named) ∧ named.verbose = verbose ∧
    ∀ s, Command.ofWords? s named.name named.words = .ok (.something (.init force))

theorem inits_init : Inits ["init"] false false :=
  ⟨⟨false, "init", []⟩, rfl, rfl, fun _ => rfl⟩

theorem inits_init_force : Inits ["init", "--force"] false true :=
  ⟨⟨false, "init", ["--force"]⟩, rfl, rfl, fun _ => rfl⟩

variable {argv : List Text} {verbose force : Bool} {w : World} {home : PathForm} {bytes : Bytes}

/-- A call that asks for fresh settings writes them once it has begun. -/
theorem callWith_init (h : Inits argv verbose force) (call : Dispatch.Call) (w : World) :
    callWith call argv w = ended (match Command.begin verbose w with
      | (.ok _, v) => Command.writeSettings force v
      | (.error f, v) => (.error f, v)) := by
  obtain ⟨named, hnamed, rfl, hwords⟩ := h
  rw [callWith]
  change ended (run call argv w) = _
  rw [run, hnamed]
  dsimp only
  rcases hbegin : Command.begin named.verbose w with ⟨f | settings, v⟩
  · rw [bind_error hbegin]
  · rw [bind_ok hbegin, bind_ok (get_apply v), hwords]
    rfl

end Program

end CampaignDesk
