import CampaignDesk.Console.Basic
import CampaignDesk.Journal.Record
import CampaignDesk.Settings.Document

/-!
# The host

What the desk runs on and does not bring along itself: the parser of settings files, the depth to which
documents may be nested, the terminal, and how log records are drawn on it.

* `Host`: all of that. `Host.usual`: a host on which settings files, documents and lines are plain.
-/

namespace CampaignDesk

/-- What the desk runs on: the parser of settings files, the levels of nesting that there is room for in
documents that are read and in those that are written, where it is enough for a flat one, the terminal, what it
draws for a log record, and what is reported about a log record that a handler failed with. Where in the program
a record was made is left out of the last two. -/
structure Host where
  yaml : Bytes → Settings.Parsed
  reading : Nat
  writing : Nat
  terminal : Terminal
  drawn : Record → Text
  report : Record → Failure → Text
  writing_pos : 0 < writing

/-- A host with a parser for the plainer settings files, room for most documents and a terminal for every line;
it draws nothing and reports nothing. -/
def Host.usual : Host where
  yaml := .ofText Yaml.read?
  reading := 960
  writing := 960
  terminal := .wide
  drawn _ := []
  report _ _ := []
  writing_pos := Nat.succ_pos _

end CampaignDesk
