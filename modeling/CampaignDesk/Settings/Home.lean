import CampaignDesk.Failure.Basic
import CampaignDesk.Path.Form

/-!
# The home of the desk

Settings and logs lie in one directory. It is the one that the environment names, or else the
directory `.mailgrid-ui` of the user's own home.

* `Environment`: what the environment says.
* `Environment.expand?`: a path with its leading `~` resolved.
* `Environment.home?`: the home of the desk.
-/

namespace CampaignDesk

/-- What the environment says of the two homes, if anything. -/
structure Environment where
  deskHome : Option Text
  userHome : Option Text
deriving DecidableEq

namespace Environment

/-- The user's own home; where the environment does not say, it is that of the superuser. -/
def userDirectory (e : Environment) : Text := e.userHome.getD "/root"

/-- A path with its leading `~` resolved. -/
def expand? (e : Environment) (path : PathForm) : Except Failure PathForm :=
  match path.expandHome? e.userDirectory with
  | some p => .ok p
  | none => .error (.new .runtimeError "Could not determine home directory.")

/-- The home of the desk; an empty name is none. -/
def home? (e : Environment) : Except Failure PathForm :=
  match e.deskHome with
  | some (c :: rest) => e.expand? (.ofText (c :: rest))
  | _ => do return (← e.expand? (.ofText "~")).below (.ofText ".mailgrid-ui")

end Environment

end CampaignDesk
