import CampaignDesk.Failure.Basic
import CampaignDesk.Text.Blank

/-!
# Defaults

What an order holds where a form leaves something unset. A number is unset if it is absent or zero,
since a form that was never touched sends zeros; a text is unset if it is absent or blank.

* `Defaults.isBlank?`: whether a text value is unset; only texts can be asked.
* `Defaults.ifUnset`, `Defaults.ifBlank?`: a value or its default.
* `Defaults.complete?`: all defaults in a dictionary of fields.
-/

namespace CampaignDesk.Defaults

/-- The port of the preview server. -/
def previewPort : Value := .int 8080

/-- How many messages are sent at once. -/
def concurrency : Value := .int 1

/-- How often one message is tried again. -/
def retryLimit : Value := .int 1

/-- How many messages form a batch. -/
def batchSize : Value := .int 1

/-- How often a scheduled job is tried again. -/
def jobRetries : Value := .int 3

/-- How long a scheduled job waits before it is tried again. -/
def jobBackoff : Value := .ofString "2s"

/-- Where scheduled jobs are kept. -/
def schedulerDb : Value := .ofString "mailgrid.db"

/-- The fields with a default number. -/
def numbers : List (String × Value) := [
  ("preview_port", previewPort), ("concurrency", concurrency), ("retry_limit", retryLimit),
  ("batch_size", batchSize), ("job_retries", jobRetries)]

/-- The fields with a default text. -/
def texts : List (String × Value) := [("job_backoff", jobBackoff), ("scheduler_db", schedulerDb)]

/-- Whether a text is absent or blank. -/
def isBlank? : Value → Except Failure Bool
  | .null => .ok true
  | .text t => .ok t.isBlank
  | v => .error (.noAttribute v "strip")

/-- The default for a value that is absent or zero. -/
def ifUnset (v default : Value) : Value := if v.isNull || v.isZero then default else v

/-- The default for a text that is absent or blank. -/
def ifBlank? (v default : Value) : Except Failure Value := do
  return if ← isBlank? v then default else v

/-- The value of a field, absent if it has none. -/
def field (entries : Entries) (name : String) : Value :=
  (Value.lookup? (Text.ofString name) entries).getD .null

/-- The entries with every field that has a default resolved; the other entries stay. -/
def complete? (entries : Entries) : Except Failure Entries := do
  let resolved := numbers.foldl
    (fun es (name, default) =>
      Value.insert es (.ofString name) (ifUnset (field entries name) default)) entries
  texts.foldlM
    (fun es (name, default) => do
      return Value.insert es (.ofString name) (← ifBlank? (field entries name) default)) resolved

/-- A value that cannot be gone through. -/
def notIterable (v : Value) : Failure :=
  .typeError (("'" : Text) ++ Text.ofString v.typeName ++ ("' object is not iterable" : Text))

/-- Why a list is not a list of pairs, if it is not; `position` counts the elements before. -/
def pairFault? (position : Nat) : List Value → Option Failure
  | [] => none
  | x :: rest =>
    let size? : Option Nat := match x with
      | .text t => some t.length
      | .list items | .tuple items => some items.length
      | .dict entries => some entries.length
      | _ => none
    match size? with
    | none =>
      some (.typeError
        (("cannot convert dictionary update sequence element #" : Text) ++ Text.ofNat position ++
          (" to a sequence" : Text)))
    | some 2 =>
      match x with
      | .list (k :: _) | .tuple (k :: _) =>
        match k with
        | .list _ | .dict _ =>
          some (.typeError (("unhashable type: '" : Text) ++ Text.ofString k.typeName ++ ("'" : Text)))
        | _ => pairFault? (position + 1) rest
      | _ => pairFault? (position + 1) rest
    | some n =>
      some (.valueError
        (("dictionary update sequence element #" : Text) ++ Text.ofNat position ++
          (" has length " : Text) ++ Text.ofNat n ++ ("; 2 is required" : Text)))

/-- All defaults in a value, which has to be a dictionary. -/
def completeValue? : Value → Except Failure Value
  | .dict entries => (complete? entries).map Value.dict
  | .text t =>
    match pairFault? 0 (t.map fun c => .text [c]) with
    | some f => .error f
    | none => .error (.noAttribute (.text t) "get")
  | .list items =>
    match pairFault? 0 items with
    | some f => .error f
    | none => .error (.noAttribute (.list items) "get")
  | .tuple items =>
    match pairFault? 0 items with
    | some f => .error f
    | none => .error (.noAttribute (.tuple items) "get")
  | v => .error (notIterable v)

end CampaignDesk.Defaults
