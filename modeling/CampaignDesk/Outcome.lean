import CampaignDesk.Failure.Basic

/-!
# Outcomes

What the desk answers to the user: whether an operation succeeded, with a message, an error or job
records. An error is present exactly when the operation did not succeed, and then it says something.

* `Outcome.make?`: an outcome from its parts, if they agree.
* `Outcome.ok`, `Outcome.failed`: outcomes that always agree.
* `Outcome.toEntries`: the parts that are present.
-/

namespace CampaignDesk

/-- Whether an error may stand beside a success value. -/
def errorAgrees (success error : Value) : Bool :=
  if success.isTruthy then error.isNull else error.isTruthy

/-- The answer to one operation; absent parts are null. -/
structure Outcome where
  success : Value
  message : Value
  error : Value
  jobs : Value
  agrees : errorAgrees success error = true

namespace Outcome

/-- The outcome of the given parts. -/
def make? (success message error jobs : Value) : Except Failure Outcome :=
  if h : errorAgrees success error = true then .ok ⟨success, message, error, jobs, h⟩
  else if success.isTruthy then
    .error (.valueError "OperationResult with success=True cannot carry an error")
  else .error (.valueError "OperationResult with success=False requires an error")

/-- A success. -/
def ok (message jobs : Value) : Outcome := ⟨.bool true, message, .null, jobs, rfl⟩

/-- The text of an error, or the name of its kind if it says nothing. -/
def errorText (text : Text) (kindName : String) : Text :=
  if text.isEmpty then Text.ofString kindName else text

/-- The error of a failure. -/
def errorOf (f : Failure) : Text := errorText f.message f.kind.name

theorem errorOf_ne_nil (f : Failure) : errorOf f ≠ [] := by
  unfold errorOf errorText
  split
  · exact Text.ofString_ne_nil f.kind.name_ne_empty
  · simp_all

/-- A failure with its error. -/
def failed (f : Failure) (jobs : Value) : Outcome :=
  ⟨.bool false, .null, .text (errorOf f), jobs, by
    have := errorOf_ne_nil f
    simp [errorAgrees, Value.isTruthy, this]⟩

/-- A failure with a value for its error, named by its type if the value reads as nothing. -/
def refused? (error jobs : Value) : Except Failure Outcome :=
  make? (.bool false) .null (.text (errorText error.display error.typeName)) jobs

/-- The parts that are present. -/
def toEntries (o : Outcome) : Entries :=
  [(.ofString "success", o.success)] ++
    (if o.message.isNull then [] else [(.ofString "message", o.message)]) ++
    (if o.error.isNull then [] else [(.ofString "error", o.error)]) ++
    (if o.jobs.isNull then [] else [(.ofString "jobs", o.jobs)])

/-- The outcome as a dictionary. -/
def toValue (o : Outcome) : Value := .dict o.toEntries

end Outcome

end CampaignDesk
