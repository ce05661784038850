import CampaignDesk.Journal.Record
import CampaignDesk.Json.Printer
import CampaignDesk.Moment

/-!
# Log lines

A record as it is written: as one line of JSON, as a plain line with a time in front, or as the
shorter plain line of the console. A plain line is followed by the account of the record's failure.

* `Failure.account`: a failure with the failures that it was raised from, the first cause first.
* `Record.structuredLine?`: one line of JSON, whatever the texts of the record hold.
* `Record.plainLine`, `Record.consoleLine`: plain lines.
-/

namespace CampaignDesk

/-- The name of a kind with the place where it is defined, if that is not everywhere known. -/
def Kind.fullName (k : Kind) : Text :=
  let place : String :=
    if k.isDesk then "mailgrid_ui.errors."
    else match k with
      | .jsonDecodeError => "json.decoder."
      | .frozenInstanceError => "dataclasses."
      | .cancelledError | .invalidStateError => "concurrent.futures._base."
      | _ => ""
  Text.ofString place ++ Text.ofString k.name

namespace Failure

/-- One failure of an account: its kind, and its message unless that is empty. A failure to read a
program always has a message. -/
def accountOf (kind : Kind) (message : Text) : Text :=
  let said : Text :=
    if kind.isA .syntaxError && (message.isEmpty || message = Text.ofString "None") then
      "<no detail available>"
    else message
  if said.isEmpty then kind.fullName else kind.fullName ++ (": " : Text) ++ said

/-- What stands between a failure and the one raised from it. -/
def causeLine : Text :=
  "\n\nThe above exception was the direct cause of the following exception:\n\n"

/-- A failure with everything that it was raised from, the first cause first. Where in the program it was
raised is left out, and so are failures that it was not raised from but came after. -/
def account (f : Failure) : Text :=
  Text.join causeLine
    ((f.causes.reverse.map fun (kind, message) => accountOf kind message) ++
      [accountOf f.kind f.message])

end Failure

namespace Record

/-- The entries of a structured line. -/
def entries (r : Record) (now : Moment) : Entries :=
  [(.ofString "timestamp", .text now.stamp), (.ofString "level", .text r.level.name),
    (.ofString "logger", .text r.logger), (.ofString "message", .text r.message)] ++
    (match r.operation with
      | none => []
      | some v => [(.ofString "operation", v)]) ++
    (match r.failure with
      | none => []
      | some f => [(.ofString "exception", .text f.account)])

/-- The record as one line of JSON, unless its operation keeps it from being written with room for so many
levels of nesting. -/
def structuredLine? (r : Record) (room : Nat) (now : Moment) : Except Failure Text :=
  Json.compose? room ⟨none⟩ (.dict (r.entries now))

/-- The line of JSON that a record has if nothing keeps it from being written. -/
def structuredLine (r : Record) (now : Moment) : Text := Json.compact (.dict (r.entries now))

/-- A line with the account of the record's failure, if it has one, on a line of its own. -/
def withFailure (r : Record) (line : Text) : Text :=
  match r.failure with
  | none => line
  | some f =>
    if line.getLast? = some 0x0A then line ++ f.account else line ++ ("\n" : Text) ++ f.account

/-- The record as a plain line. -/
def plainLine (r : Record) (now : Moment) : Text :=
  r.withFailure
    (Text.join " - " [now.clock, r.logger, r.level.name, r.message])

/-- The record as a line of the console. -/
def consoleLine (r : Record) : Text :=
  r.withFailure (r.level.name ++ (": " : Text) ++ r.message)

/-- The record as a line of whoever has no handlers. -/
def bareLine (r : Record) : Text := r.withFailure r.message

end Record

end CampaignDesk
