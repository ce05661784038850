import CampaignDesk.Failure.Basic

/-!
# Log records

A record has a level, the name of its logger, a message, perhaps the operation that it belongs to
and perhaps a failure.

* `Level`: levels with their names and weights; `Level.named?` knows the usual ones.
* `Record`: a record.
-/

namespace CampaignDesk

/-- How grave a record is: a name, and the weight by which levels are compared. -/
structure Level where
  name : Text
  weight : Nat
deriving DecidableEq

namespace Level

/-- What is of use to whoever looks for a mistake. -/
def debug : Level := ⟨"DEBUG", 10⟩

/-- What happens in the ordinary course of things. -/
def info : Level := ⟨"INFO", 20⟩

/-- What may go wrong later. -/
def warning : Level := ⟨"WARNING", 30⟩

/-- What has gone wrong. -/
def error : Level := ⟨"ERROR", 40⟩

/-- What leaves nothing to go on with. -/
def critical : Level := ⟨"CRITICAL", 50⟩

/-- No level at all, below every other. -/
def unset : Level := ⟨"NOTSET", 0⟩

/-- The five levels that settings may name. -/
def all : List Level := [debug, info, warning, error, critical]

/-- The one of the five levels that has a name. -/
def ofName? (name : Text) : Option Level := all.find? fun l => l.name = name

/-- The level meant by a name, short names and `NOTSET` included. -/
def named? (name : Text) : Option Level :=
  if name = Text.ofString "WARN" then some warning
  else if name = Text.ofString "FATAL" then some critical
  else if name = unset.name then some unset
  else ofName? name

end Level

/-- A record of the log. An operation may be present and null. -/
structure Record where
  level : Level
  logger : Text
  message : Text
  operation : Option Value
  failure : Option Failure

end CampaignDesk
