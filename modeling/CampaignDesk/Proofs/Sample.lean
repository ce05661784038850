import CampaignDesk.Form.Basic
import CampaignDesk.World

/-!
# A small world

A world with one file and an empty directory for temporary files, in which nothing has happened yet.
General statements are tried on it.
-/

namespace CampaignDesk

/-- What a computation comes to can be read off its result as an option, whose values can be compared. -/
theorem ok_of_toOption {α : Type} {x : Except Failure α} {a : α} (h : x.toOption = some a) :
    x = .ok a := by
  cases x <;> cases h
  rfl

/-- How an operation ends can be read off in the same way. -/
theorem ends_of_toOption {α : Type} {act : Act α} {w : World} {a : α} (h : (act w).1.toOption = some a) :
    act w = (.ok a, (act w).2) := Prod.ext (ok_of_toOption h) rfl

namespace Sample

/-- A mail server configuration in the working directory, and nothing else. -/
def world : World where
  store := (Store.fresh ["tmp"]).put ["tmp", "mail.json"] (.file [])
  cwd := .ok "/tmp"
  environment := ⟨none, none⟩
  systemTemp := "/tmp"
  now := ⟨2024, 1, 1, 0, 0, 0, 0⟩
  faults := []
  counts := fun _ => 0
  registry := ⟨none, []⟩
  script := ⟨[], 0⟩
  service := ⟨some (.scripted none), .null⟩
  scheduler := none
  handles := []
  made := []
  fetched := []
  journal := []
  logging := .closed
  out := []
  err := []
  current := 0
  steps := 1

/-- A form with an inline template and inline recipients. -/
def form : Form :=
  ((Form.blank.set .envPath (.ofString "mail.json")).set .templateHtml (.ofString "<p>")).set
    .csvContent (.ofString "a,b")

end Sample

end CampaignDesk
