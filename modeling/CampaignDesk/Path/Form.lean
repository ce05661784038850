import CampaignDesk.Path.Lexical

/-!
# Paths in parts

A path as its root and its names, with empty names and `.` left out and `..` kept. This is the
form in which the places of settings and logs are computed and shown.

* `PathForm.ofText`, `PathForm.toText`: reading and writing.
* `PathForm.below`: a path below a directory.
* `PathForm.expandHome`: a leading `~` becomes a home directory.
-/

namespace CampaignDesk

/-- A root (nothing, one slash or two) with the names below it. -/
structure PathForm where
  root : Text
  names : List Text
deriving DecidableEq

namespace PathForm

/-- The parts of a written path. -/
def ofText (path : Text) : PathForm where
  root := Path.root path
  names := (Text.splitOn Path.slash path).filter fun n => !(n.isEmpty || n = Path.dot)

/-- The written path; without root and names it is the directory itself. -/
def toText (path : PathForm) : Text :=
  let written := path.root ++ Text.join [Path.slash] path.names
  if written.isEmpty then Path.dot else written

/-- Whether a path starts at a root. -/
def isAbsolute (path : PathForm) : Bool := !path.root.isEmpty

/-- A path below a directory; an absolute path stands for itself. -/
def below (directory path : PathForm) : PathForm :=
  if path.isAbsolute then path else { directory with names := directory.names ++ path.names }

/-- The directory that holds a path. -/
def parent (path : PathForm) : PathForm := { path with names := path.names.dropLast }

/-- The home directory that a name such as `~` or `~user` stands for, `home` being the one of the
present user; of other users only `root` is known. -/
def homeOf? (home name : Text) : Option Text :=
  let named (t : Text) : Text :=
    let bare := (t.reverse.dropWhile (· = Path.slash)).reverse
    if bare.isEmpty then [Path.slash] else bare
  if name = [0x7E] then some (named home)
  else if name = Text.ofString "~root" then some (Text.ofString "/root")
  else none

/-- A leading `~` becomes a home directory; an unknown user has none, and a home directory that
itself begins with `~` is none either. -/
def expandHome? (home : Text) (path : PathForm) : Option PathForm :=
  match path.names with
  | (0x7E :: user) :: rest =>
    if path.isAbsolute then some path
    else
      match homeOf? home (0x7E :: user) with
      | some directory =>
        if directory.head? = some 0x7E then none
        else
          let base := ofText directory
          some { base with names := base.names ++ rest }
      | none => none
  | _ => some path

end PathForm

end CampaignDesk
