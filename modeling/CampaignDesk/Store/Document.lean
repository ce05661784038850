import CampaignDesk.Json.Printer
import CampaignDesk.Json.Reader
import CampaignDesk.Store.Access

/-!
# Texts and documents in files

Files read and written as text, and as JSON. Reading unifies line ends, writing leaves them as they
are. A file is emptied before it is written, so a text without bytes leaves it empty.

* `Store.readText?`, `Store.writeText`: texts.
* `Store.readJson?`: documents.
-/

namespace CampaignDesk

/-- The text of some bytes, with line ends unified. -/
def textOfBytes? (content : Bytes) : Except Failure Text :=
  match Utf8.decode? content with
  | .ok t => .ok t.unifyLineEnds
  | .error fault => .error (.undecodable fault)

namespace Store

/-- The text of a file. -/
def readText? (s : Store) (path : PathForm) : Except Failure Text := do
  textOfBytes? (← s.read? path.toText)

/-- Writes a text into a file: how that ends, and the store afterwards. -/
def writeText (s : Store) (path : PathForm) (text : Text) : Except Failure Unit × Store :=
  match s.write? path.toText [] with
  | .error f => (.error f, s)
  | .ok emptied =>
    match Utf8.encode? text with
    | .error fault => (.error (.unencodable fault), emptied)
    | .ok bytes =>
      match emptied.write? path.toText bytes with
      | .error f => (.error f, emptied)
      | .ok written => (.ok (), written)

end Store

/-- A fault in a JSON text as a failure. -/
def Json.Fault.failure (text : Text) (fault : Json.Fault) : Failure :=
  match fault with
  | .grammar .. => .new .jsonDecodeError (fault.message text)
  | .tooManyDigits _ => .valueError (fault.message text)
  | .tooDeep _ => .new .recursionError (fault.message text)

/-- The value of a JSON text, for a reader with room for so many levels of nesting. -/
def Json.parseWithin? (room : Nat) (text : Text) : Except Failure Value :=
  (Json.readWithin room text).mapError (Json.Fault.failure text)

/-- The value of a JSON text. -/
def Json.parse? (text : Text) : Except Failure Value :=
  (Json.read text).mapError (Json.Fault.failure text)

/-- The document in a file, for a reader with room for so many levels of nesting. -/
def Store.readJson? (s : Store) (room : Nat) (path : PathForm) : Except Failure Value := do
  Json.parseWithin? room (← s.readText? path)

end CampaignDesk
