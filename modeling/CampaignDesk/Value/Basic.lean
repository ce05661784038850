import CampaignDesk.Number.Binary64
import CampaignDesk.Text.Basic

/-!
# Values

What a payload, an engine answer or a settings file may hold. A request field can carry any of
them, whatever type it is declared with.

* `Value`, `Key`: values, and the keys of a dictionary.
* `Value.lookup?`, `Value.insert`: entries keep the order in which their keys first came.
* `Value.isTruthy`, `Value.typeName`: how a value counts as a condition, and what its type is called.
-/

namespace CampaignDesk

/-- A dictionary key. -/
inductive Key
  | text (text : Text)
  | null
  | bool (b : Bool)
  | int (n : Int)
  | float (x : Binary64)
deriving DecidableEq

/-- A dynamic value. The entries of a dictionary are ordered and have distinct keys. -/
inductive Value
  | null
  | bool (b : Bool)
  | int (n : Int)
  | float (x : Binary64)
  | text (text : Text)
  | list (items : List Value)
  | tuple (items : List Value)
  | dict (entries : List (Key × Value))

/-- The entries of a dictionary. -/
abbrev Entries := List (Key × Value)

namespace Key

/-- A text key written as a string. -/
abbrev ofString (s : String) : Key := .text (Text.ofString s)

/-- The number that a key counts as in comparisons: a truth value is zero or one. -/
def number? : Key → Option (Int ⊕ Binary64)
  | .bool b => some (.inl (if b then 1 else 0))
  | .int n => some (.inl n)
  | .float x => some (.inr x)
  | _ => none

/-- Whether two keys denote the same entry: numbers by value, whatever their types. -/
def same (k l : Key) : Bool :=
  match k.number?, l.number? with
  | some (.inl m), some (.inl n) => m = n
  | some (.inl m), some (.inr x) => x.equalsInt m
  | some (.inr x), some (.inl n) => x.equalsInt n
  | some (.inr x), some (.inr y) => x.same y
  | _, _ => k = l

/-- The key as a value. -/
def toValue : Key → Value
  | .text t => .text t
  | .null => .null
  | .bool b => .bool b
  | .int n => .int n
  | .float x => .float x

end Key

namespace Value

instance : Inhabited Value := ⟨.null⟩

/-- A text value written as a string. -/
abbrev ofString (s : String) : Value := .text (Text.ofString s)

/-- The value of the first entry whose key is the given text. -/
def lookup? (name : Text) : Entries → Option Value
  | [] => none
  | (k, v) :: rest => if k = .text name then some v else lookup? name rest

/-- Gives a key its value: at its old place if it has one, else at the end. -/
def insert (entries : Entries) (k : Key) (v : Value) : Entries :=
  match entries with
  | [] => [(k, v)]
  | (l, w) :: rest => if l.same k then (l, v) :: rest else (l, w) :: insert rest k v

/-- The entries of a sequence of assignments, later ones winning. -/
def entriesOf (assignments : Entries) : Entries :=
  assignments.foldl (fun entries a => insert entries a.1 a.2) []

/-- Whether the value is absent. -/
def isNull : Value → Bool
  | .null => true
  | _ => false

/-- How a value counts as a condition: nothing, zero and everything empty is false. -/
def isTruthy : Value → Bool
  | .null => false
  | .bool b => b
  | .int n => n ≠ 0
  | .float x => !x.isZero
  | .text t => !t.isEmpty
  | .list items => !items.isEmpty
  | .tuple items => !items.isEmpty
  | .dict entries => !entries.isEmpty

/-- Whether the value equals the number zero. -/
def isZero : Value → Bool
  | .bool b => !b
  | .int n => n = 0
  | .float x => x.isZero
  | _ => false

/-- What the type of a value is called in messages. -/
def typeName : Value → String
  | .null => "NoneType"
  | .bool _ => "bool"
  | .int _ => "int"
  | .float _ => "float"
  | .text _ => "str"
  | .list _ => "list"
  | .tuple _ => "tuple"
  | .dict _ => "dict"

end Value

end CampaignDesk
