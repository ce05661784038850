import CampaignDesk.Proofs.Json.RoundTrip

/-!
# Tuples in JSON

JSON has one kind of sequence.

* `Value.untupled`: a value with lists for its tuples.
* `write_untupled`: **a value is written as the one with lists for its tuples**, at every level.
  `obstacle?_untupled`: what keeps the one from being written keeps the other.
-/

namespace CampaignDesk

namespace Value

mutual

/-- A value with lists for its tuples, at every level. -/
def untupled : Value → Value
  | .list items => .list (untupledItems items)
  | .tuple items => .list (untupledItems items)
  | .dict entries => .dict (untupledEntries entries)
  | .null => .null
  | .bool b => .bool b
  | .int n => .int n
  | .float x => .float x
  | .text t => .text t
termination_by structural v => v

/-- The elements of a sequence with lists for their tuples. -/
def untupledItems : List Value → List Value
  | [] => []
  | x :: xs => untupled x :: untupledItems xs
termination_by structural xs => xs

/-- The entries of a dictionary with lists for their tuples. -/
def untupledEntries : Entries → Entries
  | [] => []
  | (k, v) :: es => (k, untupled v) :: untupledEntries es
termination_by structural es => es

end

end Value

namespace Json

mutual

/-- **A value is written as the one with lists for its tuples.** -/
theorem write_untupled (l : Layout) (level : Nat) :
    (v : Value) → write l level v.untupled = write l level v
  | .list items | .tuple items =>
    congrArg (bracketed l level 0x5B 0x5D) (writeItems_untupled l (level + 1) items)
  | .dict entries => congrArg (bracketed l level 0x7B 0x7D) (writeEntries_untupled l (level + 1) entries)
  | .null | .bool _ | .int _ | .float _ | .text _ => rfl

theorem writeItems_untupled (l : Layout) (level : Nat) :
    (items : List Value) → writeItems l level (Value.untupledItems items) = writeItems l level items
  | [] => rfl
  | x :: xs =>
    congrArg₂ List.cons (write_untupled l level x) (writeItems_untupled l level xs)

theorem writeEntries_untupled (l : Layout) (level : Nat) :
    (entries : Entries) →
      writeEntries l level (Value.untupledEntries entries) = writeEntries l level entries
  | [] => rfl
  | (k, v) :: es =>
    congrArg₂ (fun t ts => (key k ++ (": " : Text) ++ t) :: ts) (write_untupled l level v)
      (writeEntries_untupled l level es)

end

mutual

/-- **What keeps a value from being written** keeps the one with lists for its tuples from that. -/
theorem obstacle?_untupled (room : Nat) : (v : Value) → obstacle? room v.untupled = obstacle? room v
  | .list items | .tuple items => by
    cases room with
    | zero => rfl
    | succ room => exact itemsObstacle?_untupled room items
  | .dict entries => by
    cases room with
    | zero => rfl
    | succ room => exact entriesObstacle?_untupled room entries
  | .null | .bool _ | .int _ | .float _ | .text _ => rfl

theorem itemsObstacle?_untupled (room : Nat) : (items : List Value) →
    itemsObstacle? room (Value.untupledItems items) = itemsObstacle? room items
  | [] => rfl
  | x :: xs => congrArg₂ Option.or (obstacle?_untupled room x) (itemsObstacle?_untupled room xs)

theorem entriesObstacle?_untupled (room : Nat) : (entries : Entries) →
    entriesObstacle? room (Value.untupledEntries entries) = entriesObstacle? room entries
  | [] => rfl
  | (k, v) :: es => by
    rw [Value.untupledEntries, entriesObstacle?, entriesObstacle?, obstacle?_untupled room v,
      entriesObstacle?_untupled room es]

end

/-- A value with lists for its tuples is composed as the value is. -/
theorem compose?_untupled (room : Nat) (l : Layout) (v : Value) :
    compose? room l v.untupled = compose? room l v := by
  rw [compose?, compose?, obstacle?_untupled, write_untupled]

end Json

end CampaignDesk
