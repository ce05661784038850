import CampaignDesk.Path.Form
import CampaignDesk.Store.Basic

/-!
# Access by path

What a program does to files by naming them: look, read, write, append, create, remove, make
directories. Every refusal is the system's own error about the path as it was given.

* `Store.exists`, `Store.isDirectory`: questions that are never refused.
* `Store.probe?`: a question that is refused where the system refuses it.
* `Store.read?`, `Store.write?`, `Store.append?`, `Store.create?`, `Store.remove?`.
* `Store.makeDirectories?`: a directory with everything above it.
* `Store.files`: the files below the working directory, in order.
-/

namespace CampaignDesk.Store

/-- A refusal of the system as a failure about a path. -/
def about {α : Type} (path : Text) : Except SystemError α → Except Failure α
  | .ok a => .ok a
  | .error e => .error (.system e path)

/-- Runs an operation if the system takes the path. -/
def guarded {α : Type} (path : Text) (operation : Except SystemError α) : Except Failure α :=
  match Path.refusal? path with
  | some f => .error f
  | none => about path operation

/-- Whether a path leads to something. -/
def «exists» (s : Store) (path : Text) : Bool :=
  match guarded path (s.lookup? path) with
  | .ok _ => true
  | .error _ => false

/-- Whether a path leads to something; a name that is too long is refused. -/
def probe? (s : Store) (path : Text) : Except Failure Bool :=
  match Path.refusal? path, s.lookup? path with
  | none, .error .nameTooLong => .error (.system .nameTooLong path)
  | none, .ok _ => .ok true
  | _, _ => .ok false

/-- Whether a path leads to a directory. -/
def isDirectory (s : Store) (path : Text) : Bool :=
  match guarded path (s.lookup? path) with
  | .ok (_, .directory) => true
  | _ => false

/-- The content of the file that a path leads to. -/
def read? (s : Store) (path : Text) : Except Failure Bytes :=
  guarded path do
    match ← s.lookup? path with
    | (_, .file content) => return content
    | (_, .directory) => throw .isDirectory

/-- The location of a file to be written, whether it is there already or not. -/
def writable? (s : Store) (path : Text) : Except SystemError Location := do
  let l ← s.creation? path
  match s.node? l with
  | some .directory => throw .isDirectory
  | _ => return l

/-- A file with the given content in place of what it held. -/
def write? (s : Store) (path : Text) (content : Bytes) : Except Failure Store :=
  guarded path do return s.put (← s.writable? path) (.file content)

/-- The content of the file at a location, nothing if there is none. -/
def contentAt (s : Store) (l : Location) : Bytes :=
  match s.node? l with
  | some (.file content) => content
  | _ => []

/-- A file with more content at its end; it is made if need be. -/
def append? (s : Store) (path : Text) (content : Bytes) : Except Failure Store :=
  guarded path do
    let l ← s.writable? path
    return s.put l (.file (s.contentAt l ++ content))

/-- An empty file where nothing stood, with its location. -/
def create? (s : Store) (path : Text) : Except Failure (Store × Location) :=
  guarded path do
    let l ← s.creation? path
    match s.node? l with
    | some _ => throw .exists
    | none => return (s.put l (.file []), l)

/-- The location of a file to be removed. A path that ends in `.` or `..` names no entry of a
directory, and one that ends in a slash names no file. -/
def removable? (s : Store) (path : Text) : Except SystemError Location := do
  admit? path
  let slashed := path.getLast? = some Path.slash
  let names := if slashed then (namesOf path).dropLast else namesOf path
  match names.getLast? with
  | none => throw .isDirectory
  | some last =>
    let l ← s.walk? (s.start path) names
    if last = Path.dot || last = Path.dotDot then throw .isDirectory
    match s.node? l with
    | none => throw .noSuchFile
    | some .directory => throw .isDirectory
    | some (.file _) => if slashed then throw .notDirectory else return l

/-- The store without the file that a path leads to. -/
def remove? (s : Store) (path : Text) : Except Failure Store :=
  guarded path do return s.erase (← s.removable? path)

/-- A directory where nothing stood. -/
def makeDirectory? (s : Store) (path : Text) : Except Failure Store :=
  guarded path do
    let l ← s.locate? path
    match s.node? l with
    | some _ => throw .exists
    | none => return s.put l .directory

/-- A directory that may be there already. -/
def ensureDirectory? (s : Store) (path : Text) : Except Failure Store :=
  match s.makeDirectory? path with
  | .ok s => .ok s
  | .error f => if f.kind.isA .osError && s.isDirectory path then .ok s else .error f

/-- A directory that may be there already, with as many of those above it made as `above` allows. -/
def ensureDirectories? : (above : Nat) → Store → PathForm → Except Failure Store
  | 0, s, path => s.ensureDirectory? path.toText
  | above + 1, s, path =>
    match s.ensureDirectory? path.toText with
    | .ok s => .ok s
    | .error f =>
      if f.kind = .fileNotFoundError then do
        (← ensureDirectories? above s path.parent).ensureDirectory? path.toText
      else .error f

/-- A directory with everything above it; what is there already stays. -/
def makeDirectories? (s : Store) (path : PathForm) : Except Failure Store :=
  ensureDirectories? path.names.length s path

/-- The files of a store below a location, each by its path from there. -/
def filesBelow (s : Store) (l : Location) : List Text :=
  Text.sort (s.nodes.filterMap fun (k, n) =>
    match n with
    | .file _ => if l.isPrefixOf k then some (Text.join [Path.slash] (k.drop l.length)) else none
    | .directory => none)

/-- The files below the working directory. -/
def files (s : Store) : List Text := s.filesBelow s.here

end CampaignDesk.Store
