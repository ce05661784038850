import CampaignDesk.Number.Shortest
import CampaignDesk.Text.Quoted
import CampaignDesk.Text.Whole
import CampaignDesk.Value.Basic

/-!
# Values in messages

How a value reads inside a message: a text as it stands, everything else in literal form, where
texts are quoted, sequences are bracketed and a tuple of one element keeps its comma.

* `Value.literal`, `Value.display`: the literal form, and how a value reads.
* `Value.isShowable`: whether every number in it can be written out.
-/

namespace CampaignDesk

/-- The literal form of a truth value. -/
def literalBool (b : Bool) : Text := if b then "True" else "False"

/-- The literal form of a key. -/
def Key.literal : Key → Text
  | .text t => t.quoted
  | .null => "None"
  | .bool b => literalBool b
  | .int n => Text.ofInt n
  | .float x => x.show

/-- A key as it reads in a message. -/
def Key.display : Key → Text
  | .text t => t
  | k => k.literal

namespace Value

mutual

/-- The literal form of a value. -/
def literal : Value → Text
  | .null => "None"
  | .bool b => literalBool b
  | .int n => Text.ofInt n
  | .float x => x.show
  | .text t => t.quoted
  | .list items => ("[" : Text) ++ Text.join ", " (literalItems items) ++ ("]" : Text)
  | .tuple items =>
    ("(" : Text) ++ Text.join ", " (literalItems items) ++
      (if items.length = 1 then ",)" else ")" : Text)
  | .dict entries => ("\x7b" : Text) ++ Text.join ", " (literalEntries entries) ++ ("\x7d" : Text)
termination_by structural v => v

/-- The literal forms of the elements of a sequence. -/
def literalItems : List Value → List Text
  | [] => []
  | x :: xs => literal x :: literalItems xs
termination_by structural xs => xs

/-- The literal forms of the entries of a dictionary. -/
def literalEntries : Entries → List Text
  | [] => []
  | (k, v) :: es => (k.literal ++ (": " : Text) ++ literal v) :: literalEntries es
termination_by structural es => es

end

/-- A value as it reads in a message. -/
def display : Value → Text
  | .text t => t
  | v => v.literal

end Value

/-- Whether a number has no more digits than can be written out. -/
def isShowableInt (n : Int) : Bool := n.natAbs < Nat.pow 10 Text.maxDigits

/-- Whether a key can be written out. -/
def Key.isShowable : Key → Bool
  | .int n => isShowableInt n
  | _ => true

namespace Value

mutual

/-- Whether a value can be written out: that fails with a number of too many digits in it. -/
def isShowable : Value → Bool
  | .int n => isShowableInt n
  | .list items => areShowable items
  | .tuple items => areShowable items
  | .dict entries => areShowableEntries entries
  | _ => true
termination_by structural v => v

/-- Whether the elements of a sequence can be written out. -/
def areShowable : List Value → Bool
  | [] => true
  | x :: xs => isShowable x && areShowable xs
termination_by structural xs => xs

/-- Whether the entries of a dictionary can be written out. -/
def areShowableEntries : Entries → Bool
  | [] => true
  | (k, v) :: es => k.isShowable && isShowable v && areShowableEntries es
termination_by structural es => es

end

end Value

end CampaignDesk
