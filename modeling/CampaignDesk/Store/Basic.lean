import CampaignDesk.Path.Lexical
import CampaignDesk.Path.Encodable

/-!
# The file store

Directories and files under one root, seen from a working directory. A location is the list of
names from the root; paths are resolved name by name, so that `missing/..` leads nowhere.

* `Store.node?`, `Store.put`, `Store.erase`: the store as a map from locations.
* `Store.locate?`: the location that a path leads to, whether or not something is there.
* `Store.creation?`: the same for a file to be made.
-/

namespace CampaignDesk

/-- The names from the root to a directory or file. -/
abbrev Location := List Text

/-- What stands at a location. -/
inductive Node
  | directory
  | file (content : Bytes)
deriving DecidableEq

/-- Directories and files, with the working directory. -/
structure Store where
  nodes : List (Location × Node)
  here : Location

namespace Store

/-- What stands at a location. -/
def nodeIn? (l : Location) : List (Location × Node) → Option Node
  | [] => none
  | (k, n) :: rest => if k = l then some n else nodeIn? l rest

/-- What stands at a location. -/
def node? (s : Store) (l : Location) : Option Node := nodeIn? l s.nodes

/-- The entries for other locations. -/
def others (l : Location) : List (Location × Node) → List (Location × Node)
  | [] => []
  | entry :: rest => if entry.1 = l then others l rest else entry :: others l rest

/-- Nothing stands at a location any more. -/
def erase (s : Store) (l : Location) : Store := { s with nodes := others l s.nodes }

/-- A node stands at a location instead of what was there. -/
def put (s : Store) (l : Location) (n : Node) : Store :=
  { s with nodes := others l s.nodes ++ [(l, n)] }

theorem nodeIn?_append (l : Location) (xs ys : List (Location × Node)) :
    nodeIn? l (xs ++ ys) = (nodeIn? l xs).or (nodeIn? l ys) := by
  induction xs with
  | nil => simp [nodeIn?]
  | cons x xs ih => by_cases h : x.1 = l <;> simp [nodeIn?, h, ih]

theorem nodeIn?_others_self (l : Location) (xs : List (Location × Node)) :
    nodeIn? l (others l xs) = none := by
  induction xs with
  | nil => rfl
  | cons x xs ih => by_cases h : x.1 = l <;> simp [others, nodeIn?, h, ih]

theorem nodeIn?_others_of_ne {k l : Location} (h : k ≠ l) (xs : List (Location × Node)) :
    nodeIn? k (others l xs) = nodeIn? k xs := by
  induction xs with
  | nil => rfl
  | cons x xs ih =>
    by_cases hx : x.1 = l
    · simp [others, nodeIn?, hx, Ne.symm h, ih]
    · simp [others, nodeIn?, hx, ih]

@[simp] theorem node?_erase_self (s : Store) (l : Location) : (s.erase l).node? l = none :=
  nodeIn?_others_self l s.nodes

theorem node?_erase_of_ne (s : Store) {k l : Location} (h : k ≠ l) :
    (s.erase l).node? k = s.node? k :=
  nodeIn?_others_of_ne h s.nodes

@[simp] theorem node?_put_self (s : Store) (l : Location) (n : Node) :
    (s.put l n).node? l = some n := by
  simp [node?, put, nodeIn?_append, nodeIn?_others_self, nodeIn?]

theorem node?_put_of_ne (s : Store) {k l : Location} (h : k ≠ l) (n : Node) :
    (s.put l n).node? k = s.node? k := by
  simp [node?, put, nodeIn?_append, nodeIn?_others_of_ne h, nodeIn?, Ne.symm h]

/-- A store with the directories from the root to its working directory and nothing else. -/
def fresh (here : Location) : Store where
  nodes := (List.range (here.length + 1)).map fun n => (here.take n, .directory)
  here := here

/-- The names of a path; a slash at the end asks for the directory itself. -/
def namesOf (path : Text) : List Text :=
  let names := (Text.splitOn Path.slash path).filter fun n => !n.isEmpty
  if path.getLast? = some Path.slash then names ++ [Path.dot] else names

/-- One name further from a location, which has to be a directory. -/
def enter? (s : Store) (at? : Location) (name : Text) : Except SystemError Location :=
  match s.node? at? with
  | none => .error .noSuchFile
  | some (.file _) => .error .notDirectory
  | some .directory =>
    if name = Path.dot then .ok at?
    else if name = Path.dotDot then .ok at?.dropLast
    else if 255 < Path.byteLength name then .error .nameTooLong
    else .ok (at? ++ [name])

/-- Where the walk along a path begins. -/
def start (s : Store) (path : Text) : Location := if Path.isAbsolute path then [] else s.here

/-- The location that names lead to from a location. -/
def walk? (s : Store) (at? : Location) (names : List Text) : Except SystemError Location :=
  names.foldlM s.enter? at?

/-- Refuses the empty path and one that is too long. -/
def admit? (path : Text) : Except SystemError Unit :=
  if path.isEmpty then .error .noSuchFile
  else if 4095 < Path.byteLength path then .error .nameTooLong
  else .ok ()

/-- The location that a path leads to; nothing need stand there. -/
def locate? (s : Store) (path : Text) : Except SystemError Location := do
  admit? path
  s.walk? (s.start path) (namesOf path)

/-- What a path leads to. -/
def lookup? (s : Store) (path : Text) : Except SystemError (Location × Node) := do
  let l ← s.locate? path
  match s.node? l with
  | some n => return (l, n)
  | none => throw .noSuchFile

/-- The location at which a file is to be made; a slash at the end never names a file. -/
def creation? (s : Store) (path : Text) : Except SystemError Location := do
  admit? path
  if path.getLast? = some Path.slash then
    let _ ← s.walk? (s.start path) (namesOf path).dropLast
    throw .isDirectory
  s.walk? (s.start path) (namesOf path)

end Store

end CampaignDesk
