import CampaignDesk.Console.Basic
import CampaignDesk.World

/-!
# Output

What a command prints: answers on one channel, complaints on the other. An answer has to have bytes;
one that has none is refused before any of it is printed.

* `Console.echo`: an answer as it stands.
* `Console.say`: an answer behind a mark.
* `Console.complain`: a complaint.
-/

namespace CampaignDesk.Console

/-- Prints an answer, unless it has no bytes; `hint` is added to what is then said. -/
def print (t hint : Text) : Act Unit :=
  match Utf8.encode? t with
  | .ok _ => modify fun w => { w with out := w.out ++ t }
  | .error fault =>
    let f := Failure.unencodable fault
    throw { f with message := f.message ++ hint }

/-- Prints a line. -/
def echo (t : Text) : Act Unit := print (t ++ ("\n" : Text)) []

/-- What is said of a message that cannot be printed. -/
def encodingHint : Text :=
  "\n*** You may need to add PYTHONIOENCODING=utf-8 to your environment ***"

/-- Prints a message behind a mark. -/
def say (m : Mark) (message : Text) : Act Unit := do
  print (line m message (← get).host.terminal) encodingHint

/-- Prints a complaint on a line of its own. -/
def complain (t : Text) : Act Unit := modify fun w => { w with err := w.err ++ t ++ ("\n" : Text) }

end CampaignDesk.Console
