import CampaignDesk.Number.Shortest

/-!
# Decimals with so many digits

A value is written with as many digits as are asked for, rounded to the nearest such decimal, a half to the even
one: with so many places behind the point, with an exponent behind one digit and so many places, or with so many
digits in whichever of the two ways is shorter.

* `Binary64.positive`, `Binary64.rounded`: a magnitude as a quotient, and its leading digits.
* `Binary64.Style`: the ways to write a value. `Binary64.write`: the text.
-/

namespace CampaignDesk.Binary64

/-- The ways to write a value. -/
inductive Style
  | fixed
  | scientific
  | general
deriving DecidableEq

/-- The magnitude of a finite value as a quotient. -/
def positive (mantissa : Nat) (exponent : Int) : Nat × Nat :=
  if 0 ≤ exponent then (mantissa * Nat.pow 2 exponent.toNat, 1)
  else (mantissa, Nat.pow 2 (-exponent).toNat)

/-- The `count` leading digits of a quotient, as a number, and the power of ten that the first of them stands
at. -/
def rounded (num den count : Nat) : Nat × Int :=
  if num = 0 then (0, 0)
  else
    let top := decimalExponent num den
    let shift := (count : Int) - 1 - top
    let digits :=
      if 0 ≤ shift then divNearest (num * Nat.pow 10 shift.toNat) den
      else divNearest num (den * Nat.pow 10 (-shift).toNat)
    -- rounding may carry into one digit more
    if digits = Nat.pow 10 count then (digits / 10, top + 1) else (digits, top)

/-- A point with the places behind it; without places the point is left out unless it is kept. -/
def behind (kept : Bool) (places : Text) : Text :=
  if places.isEmpty && !kept then [] else ("." : Text) ++ places

/-- Without the zeros at the end, unless they are kept. -/
def trimmed (kept : Bool) (places : Text) : Text :=
  if kept then places else (places.reverse.dropWhile (· = 0x30)).reverse

/-- An exponent of at least two digits. -/
def powerText (power : Int) : Text :=
  (if power < 0 then "e-" else "e+" : Text) ++ Text.padded 2 power.natAbs

/-- A quotient with so many places behind the point. -/
def writeFixed (kept : Bool) (num den places : Nat) : Text :=
  let digits := Text.padded (places + 1) (divNearest (num * Nat.pow 10 places) den)
  let front := digits.length - places
  digits.take front ++ behind kept (digits.drop front)

/-- A quotient with one digit in front of the point, so many places behind it and an exponent. -/
def writeScientific (kept : Bool) (num den places : Nat) : Text :=
  let (digits, power) := rounded num den (places + 1)
  let digits := Text.padded (places + 1) digits
  digits.take 1 ++ behind kept (digits.drop 1) ++ powerText power

/-- A quotient with so many digits, at least one; an exponent is written if the point would stand behind all of
them or more than four places in front of them. Zeros at the end are left out unless they are kept. -/
def writeGeneral (kept : Bool) (num den count : Nat) : Text :=
  let count := max count 1
  let (digits, power) := rounded num den count
  let digits := Text.padded count digits
  if power < -4 || (count : Int) ≤ power then
    digits.take 1 ++ behind kept (trimmed kept (digits.drop 1)) ++ powerText power
  else if power < 0 then
    ("0" : Text) ++ behind kept (trimmed kept (List.replicate (-power - 1).toNat 0x30 ++ digits))
  else
    digits.take (power.toNat + 1) ++ behind kept (trimmed kept (digits.drop (power.toNat + 1)))

/-- The text of the magnitude of a value; `kept` says whether a point and zeros that could be left out are
kept. -/
def write (style : Style) (kept : Bool) (precision : Nat) : Binary64 → Text
  | .nan => "nan"
  | .infinite _ => "inf"
  | .finite _ mantissa exponent =>
    let (num, den) := positive mantissa exponent
    match style with
    | .fixed => writeFixed kept num den precision
    | .scientific => writeScientific kept num den precision
    | .general => writeGeneral kept num den precision

/-- Whether a value has a minus sign; `nan` has none. -/
def isNegative : Binary64 → Bool
  | .nan => false
  | .infinite negative | .finite negative _ _ => negative

end CampaignDesk.Binary64
