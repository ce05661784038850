import CampaignDesk.Journal.Record
import CampaignDesk.Order.Basic
import CampaignDesk.Scheduler.Task

/-!
# The journal

Everything that happens in a session, in the order in which it happens: log records, engine calls,
listeners added and told, and the answers of steps taken inside a call. An entry carries the number
of the step during which it was made, so that the entries of one step can be told from those of the
steps inside it.

* `Reply`, `Answer`: what a step answers.
* `Call`: an engine call.
* `Entry`, `Journal`: the journal.
-/

namespace CampaignDesk

/-- What a step that succeeds answers. -/
inductive Reply
  | value (v : Value)
  | bytes (content : Bytes)
  | failure (f : Option Failure)
  | prepared (order : Value) (isScheduled : Bool) (paths : List Text)
      (contents : List (Option Bytes))

/-- The answer of a step: its number, how it ended, and the files there are afterwards. -/
structure Answer where
  number : Nat
  outcome : Except Failure Reply
  files : List Text

/-- An engine call: the order, the template and recipient files as they were at that moment, and
the name under which the engine was found, if it has one. -/
structure Call where
  order : Order
  files : List (Text × Bytes)
  engine : Option Text

/-- Something that happened. -/
inductive Entry
  | log (record : Record)
  | call (call : Call)
  /-- The engine called last has taken steps. -/
  | during (answers : List Answer)
  /-- A listener was added to a handle. -/
  | added (listener : Text)
  /-- A listener was told and saw a status. -/
  | told (listener : Text) (status : Task.Status)
  /-- Whoever is named has taken steps. -/
  | took (who : Text) (answers : List Answer)

/-- What happened, the oldest first, with the number of the step during which it did. -/
abbrev Journal := List (Nat × Entry)

/-- The entries made during one step, those of steps inside it left out. -/
def Journal.ofStep (journal : Journal) (number : Nat) : List Entry :=
  journal.filterMap fun (n, e) => if n = number then some e else none

/-- The log records, in order. -/
def Journal.records (journal : Journal) : List Record :=
  journal.filterMap fun (_, e) =>
    match e with
    | .log r => some r
    | _ => none

/-- The engine calls, in order. -/
def Journal.calls (journal : Journal) : List Call :=
  journal.filterMap fun (_, e) =>
    match e with
    | .call c => some c
    | _ => none

end CampaignDesk
