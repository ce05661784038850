import CampaignDesk.Proofs.Dispatch.Call
import CampaignDesk.Proofs.Ordinary

/-!
# Records of operations

Every operation logs that it begins, and how it has ended, on either side of its engine call.

* `Journal.operations`: the records of operations. `Dispatch.started`, `Dispatch.ended`: the record that an
  operation begins with, and the one for how its engine call ended. `Dispatch.closing_noted`: **that is what
  is logged after the call**, unless it asked to stop.
* `Journal.unended`: records are read from left to right, with the operations that have begun and not ended
  on a stack. `unended_started`, `unended_ended`: the two records put an operation on it and take it off.
-/

namespace CampaignDesk

open Act

/-! ## Records of operations -/

namespace Dispatch

/-- The record that an operation begins with. -/
def started (operation : String) : Record :=
  ⟨.info, Text.ofString logger, ("Starting " : Text) ++ Text.ofString operation,
    some (.ofString operation), none⟩

/-- The record that an operation ends with, by how its engine call ended. -/
def ended (operation : String) : Except Failure Value → Record
  | .ok _ => ⟨.info, Text.ofString logger, Text.ofString operation ++ (" completed" : Text),
      some (.ofString operation), none⟩
  | .error f => ⟨.error, Text.ofString logger,
      Text.ofString operation ++ (" failed" : Text) ++
        (if f.kind.isDesk then [] else (": " : Text) ++ f.message),
      some (.ofString operation), some f⟩

end Dispatch

namespace Record

/-- A record of the service that has an operation. -/
def isOfOperation (r : Record) : Bool :=
  decide (r.logger = Text.ofString Dispatch.logger) && r.operation.isSome

/-- The operation that a record says has begun. -/
def begins? (r : Record) : Option Text :=
  match r.operation with
  | some (.text operation) =>
    if r.level = .info ∧ r.message = ("Starting " : Text) ++ operation ∧ r.failure.isNone then
      some operation
    else none
  | _ => none

/-- Whether a record says that an operation has ended: it has been completed, or has failed with a failure
that the record holds. -/
def ends (r : Record) (operation : Text) : Bool :=
  match r.operation with
  | some (.text t) => decide (t = operation) &&
    (decide (r.level = .info) && decide (r.message = operation ++ (" completed" : Text)) &&
        r.failure.isNone ||
      decide (r.level = .error) && (operation ++ (" failed" : Text)).isPrefixOf r.message &&
        r.failure.isSome)
  | _ => false

end Record

namespace Journal

/-- The records of operations, in order. -/
def operations (journal : Journal) : List Record :=
  journal.records.filter Record.isOfOperation

/-- The operations that have begun and not ended after some records, the last one first. There is no
answer if a record is neither for the begin of an operation nor for the end of the last one. -/
def unended (stack : List Text) : List Record → Option (List Text)
  | [] => some stack
  | r :: rest =>
    match r.begins? with
    | some operation => unended (operation :: stack) rest
    | none =>
      match stack with
      | [] => none
      | operation :: stack => if r.ends operation then unended stack rest else none

theorem operations_append (j k : Journal) : (j ++ k : Journal).operations = j.operations ++ k.operations := by
  rw [operations, records, List.filterMap_append, List.filter_append]
  rfl

end Journal

/-- The world once a record has been logged. -/
def World.noted (w : World) (r : Record) : World := (Act.note r w).2

/-! ## Logging and reading the two records -/

section

variable {operation : String} {outcome : Except Failure Value} {stack : List Text} {rest : List Record}
  {w : World}

theorem World.noted_operations {r : Record} (h : r.isOfOperation = true) :
    (w.noted r).journal.operations = w.journal.operations ++ [r] := by
  change Journal.operations (w.journal ++ [(w.current, .log r)]) = _
  rw [Journal.operations_append]
  simp [Journal.operations, Journal.records, h]

/-- How an engine call ended is logged, unless it asked to stop. -/
theorem Dispatch.closing_noted (operation : String) (h : Ordinary outcome) :
    (closing operation outcome w).2 = w.noted (ended operation outcome) := by
  rcases outcome with f | returned
  · have hlogged : logFailed operation f w = (.ok (), w.noted (ended operation (.error f))) := by
      unfold logFailed
      split
      · rename_i hdesk
        rw [ended, if_pos hdesk, List.append_nil]
        rfl
      · rename_i hdesk
        have hordinary : f.kind.isOrdinary = true := h f rfl
        rw [if_pos hordinary, ended, if_neg hdesk, List.append_assoc, List.append_assoc]
        rfl
    rw [closing, bind_ok hlogged]
    rfl
  · rfl

theorem Dispatch.unended_started :
    Journal.unended stack (started operation :: rest) =
      Journal.unended (Text.ofString operation :: stack) rest := by
  have hbegins : (started operation).begins? = some (Text.ofString operation) := if_pos ⟨rfl, rfl, rfl⟩
  simp only [Journal.unended, hbegins]

theorem Dispatch.unended_ended :
    Journal.unended (Text.ofString operation :: stack) (ended operation outcome :: rest) =
      Journal.unended stack rest := by
  have hbegins : (ended operation outcome).begins? = none := by
    cases outcome with
    | ok returned =>
      refine if_neg fun h => ?_
      have hlength := congrArg List.length h.2.1
      simp only [ended, List.length_append] at hlength
      have hlengths : (" completed" : Text).length = 10 ∧ ("Starting " : Text).length = 9 := by decide
      omega
    | error f =>
      have hlevel : Level.error ≠ Level.info := by decide
      simp [Record.begins?, ended, Value.ofString, hlevel]
  have hends : (ended operation outcome).ends (Text.ofString operation) = true := by
    cases outcome <;> simp [Record.ends, ended, Value.ofString]
  simp only [Journal.unended, hbegins, hends, if_true]

end

end CampaignDesk
