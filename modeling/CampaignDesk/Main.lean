import CampaignDesk.Command.Reach

/-!
# The program

Takes the files that a call can reach into a store, makes the call, and brings files and terminal in
line with what it left.
-/

namespace CampaignDesk.Program

/-- What stands at a path of the system. -/
def nodeAt? (path : String) : IO (Option Node) := do
  try
    let place ← IO.FS.realPath path
    if ← place.isDir then return some .directory
    return some (.file (← IO.FS.readBinFile place).toList)
  catch _ => return none

/-- The path of a location. -/
def pathOf (l : Location) : String := "/" ++ (Text.join [Path.slash] l).toString

/-- The location that a path is written for. -/
def locationOf (here : Location) (path : Text) : Location :=
  Path.names (Text.join [Path.slash] ([] :: here) ++ Path.slash :: path)

/-- A store with what stands along a path. -/
def take (store : Store) (path : Text) : IO Store := do
  let l := if Path.isAbsolute path then Path.names path else locationOf store.here path
  (List.range (l.length + 1)).foldlM (fun store n => do
    match ← nodeAt? (pathOf (l.take n)) with
    | some node => return store.put (l.take n) node
    | none => return store) store

/-- Brings one location of the system in line with a store. -/
def bring (before after : Store) (l : Location) : IO Unit := do
  if before.node? l = after.node? l then return
  match after.node? l with
  | some .directory => IO.FS.createDirAll (pathOf l)
  | some (.file content) => IO.FS.writeBinFile (pathOf l) ⟨content.toArray⟩
  | none => IO.FS.removeFile (pathOf l)

/-- The present moment, which is that of a fresh file. -/
def present : IO Moment := do
  let (_, path) ← IO.FS.createTempFile
  let time := (← path.metadata).modified
  IO.FS.removeFile path
  return .ofSeconds time.sec.toNat (time.nsec.toNat / 1000)

/-- The world that the program finds. -/
def findWorld : IO World := do
  let here := (← IO.currentDir).toString
  let setting (name : String) : IO (Option Text) := do
    return (← IO.getEnv name).map Text.ofString
  return {
    store := .fresh (Path.names (Text.ofString here))
    cwd := .ok (Text.ofString here)
    environment := ⟨← setting "MAILGRID_UI_HOME", ← setting "HOME"⟩
    systemTemp := (← setting "TMPDIR").getD "/tmp"
    now := ← present
    faults := []
    counts := fun _ => 0
    registry := ⟨none, []⟩
    script := ⟨[], 0⟩
    service := ⟨none, .null⟩
    scheduler := none
    handles := []
    made := []
    fetched := []
    journal := []
    logging := .closed
    out := []
    err := []
    current := 0
    steps := 1 }

/-- One call on the system; the first look at the files finds the settings and the request. -/
def live (argv : List Text) : IO UInt32 := do
  let w ← findWorld
  let look (w : World) : IO World := do
    return { w with store := ← (reach w argv).foldlM take w.store }
  let before ← look (← look w)
  let (ending, after) := call argv before
  let places := (before.store.nodes ++ after.store.nodes).map (·.1)
  places.forM (bring before.store after.store)
  IO.print after.out.toString
  IO.eprint after.err.toString
  match ending.failure with
  | some f => IO.eprintln f.account.toString
  | none => pure ()
  return UInt32.ofNat (ending.status % 256).toNat

end CampaignDesk.Program

/-- The command line. -/
def main (argv : List String) : IO UInt32 :=
  CampaignDesk.Program.live (argv.map CampaignDesk.Text.ofString)
