import CampaignDesk.Form.Basic
import CampaignDesk.Path.Lexical

/-!
# Attachments

The attachments of an order are the paths of a form made absolute, each once, in the order in which
they first come. What is absent or blank is passed over; what is no text is refused. Where the
working directory cannot be told, a relative path stays as it is.

* `Attachments.resolved?`: one path against the working directory.
* `Attachments.normalize?`: the paths of a value.
-/

namespace CampaignDesk.Attachments

/-- A path made absolute. A working directory that fails as an operating system error or as a
value out of place leaves the path as it is; any other failure is passed on. -/
def resolved? (cwd : Except Failure Text) (path : Text) : Except Failure Text :=
  if Path.isAbsolute path then .ok path
  else
    match cwd with
    | .ok directory => .ok (Path.resolve directory path)
    | .error f => if f.kind.isA .osError || f.kind.isA .valueError then .ok path else .error f

/-- The refusal of an attachment that is no text. -/
def notText (v : Value) : Failure :=
  .new .fieldRefused
    (("attachments entries must be strings, got " : Text) ++ Text.ofString v.typeName)

/-- The paths kept so far, with one more entry of a form. -/
def keep? (cwd : Except Failure Text) (kept : List Text) (entry : Value) :
    Except Failure (List Text) :=
  match entry with
  | .null => .ok kept
  | .text path =>
    if path.isBlank then .ok kept
    else do
      let path ← resolved? cwd path
      return if path ∈ kept then kept else kept ++ [path]
  | v => .error (notText v)

/-- The paths of the entries of a form. -/
def collect? (cwd : Except Failure Text) (entries : List Value) : Except Failure (List Text) :=
  entries.foldlM (keep? cwd) []

/-- The paths of a value; a single text is not taken for a list of paths. -/
def normalize? (cwd : Except Failure Text) (v : Value) : Except Failure (List Text) :=
  match v with
  | .text _ => .error (.new .fieldRefused "attachments must be a list of paths, not a string")
  | v => if v.isTruthy then do collect? cwd (← Form.elements? v) else .ok []

end CampaignDesk.Attachments
