import CampaignDesk.Value.Basic

/-!
# Equality of values

Two values are the same if they have equal contents: numbers by value across their types,
sequences element by element within one type, dictionaries by their keys in any order.
-/

namespace CampaignDesk.Value

/-- The number that a value counts as in comparisons: a truth value is zero or one. -/
def number? : Value → Option (Int ⊕ Binary64)
  | .bool b => some (.inl (if b then 1 else 0))
  | .int n => some (.inl n)
  | .float x => some (.inr x)
  | _ => none

/-- Comparison of numbers by value. -/
def sameNumber : Int ⊕ Binary64 → Int ⊕ Binary64 → Bool
  | .inl m, .inl n => m = n
  | .inl m, .inr x => x.equalsInt m
  | .inr x, .inl n => x.equalsInt n
  | .inr x, .inr y => x.same y

mutual

/-- Whether two values are equal. -/
def same (v w : Value) : Bool :=
  match v with
  | .null => w.isNull
  | .text s => match w with
    | .text t => s = t
    | _ => false
  | .list xs => match w with
    | .list ys => sameItems xs ys
    | _ => false
  | .tuple xs => match w with
    | .tuple ys => sameItems xs ys
    | _ => false
  | .dict es => match w with
    | .dict fs => es.length = fs.length && sameEntries es fs
    | _ => false
  | .bool b => match w.number? with
    | some n => sameNumber (.inl (if b then 1 else 0)) n
    | none => false
  | .int m => match w.number? with
    | some n => sameNumber (.inl m) n
    | none => false
  | .float x => match w.number? with
    | some n => sameNumber (.inr x) n
    | none => false
termination_by structural v

/-- Whether two sequences agree element by element. -/
def sameItems (xs ys : List Value) : Bool :=
  match xs with
  | [] => ys.isEmpty
  | x :: xs => match ys with
    | [] => false
    | y :: ys => same x y && sameItems xs ys
termination_by structural xs

/-- Whether each of the first entries has an equal value under the same key among the second. -/
def sameEntries (es fs : Entries) : Bool :=
  match es with
  | [] => true
  | (k, v) :: es =>
    (match fs.find? (·.1.same k) with
      | some (_, w) => same v w
      | none => false) && sameEntries es fs
termination_by structural es

end

end CampaignDesk.Value
