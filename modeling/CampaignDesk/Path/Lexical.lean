import CampaignDesk.Text.Basic

/-!
# Paths as written

A path is a text of names between slashes. The operations here look at the text alone and never
at a file system.

* `Path.join`: a path below a directory.
* `Path.normalize`: the same path without empty names, `.` and, as far as they go, `..`.
* `Path.resolve`: a relative path against a working directory.
-/

namespace CampaignDesk.Path

/-- The slash. -/
def slash : CodePoint := 0x2F

/-- The name that means the directory itself. -/
def dot : Text := [0x2E]

/-- The name that means the parent directory. -/
def dotDot : Text := [0x2E, 0x2E]

/-- Whether a path starts at the root. -/
def isAbsolute (path : Text) : Bool := path.head? = some slash

/-- A path below a directory; an absolute path stands for itself. -/
def join (directory path : Text) : Text :=
  if isAbsolute path then path
  else if directory.isEmpty || directory.getLast? = some slash then directory ++ path
  else directory ++ slash :: path

/-- The slashes that a path keeps in front: two stay two, any other number becomes one. -/
def root (path : Text) : Text :=
  match path.takeWhile (· = slash) with
  | [] => []
  | [_, _] => [slash, slash]
  | _ => [slash]

/-- The names kept so far, the last one first, after one more name. Going up from a name drops it,
and above the root there is nothing. -/
def push (rooted : Bool) (kept : List Text) (name : Text) : List Text :=
  if name.isEmpty || name = dot then kept
  else if name = dotDot then
    match kept with
    | [] => if rooted then [] else [dotDot]
    | last :: rest => if last = dotDot then dotDot :: kept else rest
  else name :: kept

/-- The names of a path without empty ones, `.` and whatever `..` cancels. -/
def names (path : Text) : List Text :=
  ((Text.splitOn slash path).foldl (push (isAbsolute path)) []).reverse

/-- The shortest way to write a path; the empty path is the directory itself. -/
def normalize (path : Text) : Text :=
  let written := root path ++ Text.join [slash] (names path)
  if written.isEmpty then dot else written

/-- A path as seen from a working directory, written the shortest way. -/
def resolve (cwd path : Text) : Text := normalize (join cwd path)

end CampaignDesk.Path
