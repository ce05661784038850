import CampaignDesk.Text.Blank

/-!
# Whole numbers as a user writes them

A whole number may have blanks around it, a sign, single underscores between its digits, and digits
of any script.

* `CodePoint.digit?`: the value of a decimal digit of any script.
* `Text.toInt?`: the number that a text spells.
-/

namespace CampaignDesk

/-- The zeros of all scripts; the other nine digits follow each of them. -/
def CodePoint.zeros : List Nat := [
  0x0030, 0x0660, 0x06F0, 0x07C0, 0x0966, 0x09E6, 0x0A66, 0x0AE6, 0x0B66, 0x0BE6, 0x0C66, 0x0CE6,
  0x0D66, 0x0DE6, 0x0E50, 0x0ED0, 0x0F20, 0x1040, 0x1090, 0x17E0, 0x1810, 0x1946, 0x19D0, 0x1A80,
  0x1A90, 0x1B50, 0x1BB0, 0x1C40, 0x1C50, 0xA620, 0xA8D0, 0xA900, 0xA9D0, 0xA9F0, 0xAA50, 0xABF0,
  0xFF10, 0x104A0, 0x10D30, 0x11066, 0x110F0, 0x11136, 0x111D0, 0x112F0, 0x11450, 0x114D0, 0x11650,
  0x116C0, 0x11730, 0x118E0, 0x11950, 0x11C50, 0x11D50, 0x11DA0, 0x16A60, 0x16AC0, 0x16B50, 0x1D7CE,
  0x1D7D8, 0x1D7E2, 0x1D7EC, 0x1D7F6, 0x1E140, 0x1E2F0, 0x1E950, 0x1FBF0]

/-- The value of a decimal digit. -/
def CodePoint.digit? (c : CodePoint) : Option Nat :=
  (CodePoint.zeros.find? fun z => z ≤ c.val && c.val < z + 10).map (c.val - ·)

namespace Text

/-- The most digits that a number may be spelled with. -/
def maxDigits : Nat := 4300

/-- The digits of a number, which may be parted by single underscores. -/
def digits? : Text → Option (List Nat)
  | [] => none
  | [c] => c.digit?.map fun d => [d]
  | c :: d :: rest =>
    match c.digit? with
    | none => none
    | some n =>
      if d = 0x5F then (digits? rest).map (n :: ·) else (digits? (d :: rest)).map (n :: ·)

/-- The number that a text without a sign spells. -/
def toNat? (text : Text) : Option Nat := do
  let digits ← digits? text
  if digits.length ≤ maxDigits then return digits.foldl (fun n d => n * 10 + d) 0 else none

/-- A blank that may stand around a number: the four separators of the first 128 code points are
none. -/
def isMargin (c : CodePoint) : Bool := c.isBlank && !(0x1C ≤ c.val && c.val ≤ 0x1F)

/-- The number that a text spells. -/
def toInt? (text : Text) : Option Int :=
  match trimBoth isMargin text with
  | 0x2D :: rest => (toNat? rest).map fun n => -(n : Int)
  | 0x2B :: rest => (toNat? rest).map fun n => (n : Int)
  | t => (toNat? t).map fun n => (n : Int)

end Text

end CampaignDesk
