import CampaignDesk.Number.Binary64
import CampaignDesk.Text.Basic

/-!
# The shortest decimal of a binary number

A finite value is written with the fewest digits that read back as the same value. Of several
decimals with that many digits the nearest is taken, and of two equally near ones the even one.

* `Binary64.shortest`: digits and power of ten.
* `Binary64.show`: the text, positional for values from `10 ^ -4` to below `10 ^ 16`.
-/

namespace CampaignDesk.Binary64

/-- The reals that round to a value, as a range of multiples of `1 / unit`: `low` and `high` are the
ends, `mid` is the value, and `closed` says whether the ends belong to it. -/
structure Interval where
  low : Nat
  mid : Nat
  high : Nat
  unit : Nat
  closed : Bool

/-- The interval of `mantissa · 2 ^ exponent`. Below a power of two the neighbours are half as far
away as above it. -/
def interval (mantissa : Nat) (exponent : Int) : Interval :=
  let (scale, unit) : Nat × Nat :=
    if 0 ≤ exponent then (Nat.pow 2 exponent.toNat, 4) else (1, 4 * Nat.pow 2 (-exponent).toNat)
  let below := if mantissa = Nat.pow 2 52 && minExponent < exponent then 1 else 2
  ⟨(4 * mantissa - below) * scale, 4 * mantissa * scale, (4 * mantissa + 2) * scale, unit,
    mantissa % 2 = 0⟩

/-- Whether `digits · num / den` rounds to the value of the interval. -/
def Interval.holds (i : Interval) (digits num den : Nat) : Bool :=
  let x := digits * num * i.unit
  if i.closed then i.low * den ≤ x && x ≤ i.high * den else i.low * den < x && x < i.high * den

/-- The decimal with step `num / den` that stands for the interval: the nearer of the two
neighbours of the value, if it reads back. -/
def Interval.pick (i : Interval) (num den : Nat) : Option Nat :=
  let down := i.mid * den / (num * i.unit)
  let up := down + 1
  let x := i.mid * den
  let toDown := x - down * num * i.unit
  let toUp := up * num * i.unit - x
  match i.holds down num den, i.holds up num den with
  | true, true =>
    some (if toDown < toUp || (toDown = toUp && down % 2 = 0) then down else up)
  | true, false => some down
  | false, true => some up
  | false, false => none

/-- The greatest power of ten that is at most `num / den`, from a guess that may be one too
great. -/
def decimalExponent (num den : Nat) : Int :=
  let guess : Int := ((Nat.log2 num : Int) - (Nat.log2 den : Int) + 1) * 30103 / 100000
  let fits (e : Int) : Bool :=
    if 0 ≤ e then den * Nat.pow 10 e.toNat ≤ num else den ≤ num * Nat.pow 10 (-e).toNat
  if fits (guess + 1) then guess + 1 else if fits guess then guess else guess - 1

/-- The first grid of at least `count` digits with a decimal that reads back. -/
def shortestFrom (i : Interval) (top : Int) : (tries count : Nat) → Nat × Int
  | 0, _ => (0, 0)
  | tries + 1, count =>
    let power := top - (count : Int) + 1
    let (num, den) : Nat × Nat :=
      if 0 ≤ power then (Nat.pow 10 power.toNat, 1) else (1, Nat.pow 10 (-power).toNat)
    match i.pick num den with
    | some digits => (digits, power)
    | none => shortestFrom i top tries (count + 1)

/-- The digits of a number without the zeros at its end, with the power of ten they stand at. -/
def stripZeros : (fuel : Nat) → Nat → Int → Nat × Int
  | 0, digits, power => (digits, power)
  | fuel + 1, digits, power =>
    if digits ≠ 0 && digits % 10 = 0 then stripZeros fuel (digits / 10) (power + 1)
    else (digits, power)

/-- The shortest decimal `digits · 10 ^ power` of a finite value other than zero; seventeen digits
always suffice. -/
def shortest (mantissa : Nat) (exponent : Int) : Nat × Int :=
  let i := interval mantissa exponent
  let (digits, power) := shortestFrom i (decimalExponent i.mid i.unit) 17 1
  stripZeros 20 digits power

/-- Digits with a point `point` places after the first of them; the point may stand outside. -/
def positional (digits : Text) (point : Int) : Text :=
  if point ≤ 0 then ("0." : Text) ++ List.replicate (-point).toNat 0x30 ++ digits
  else if point.toNat < digits.length then
    digits.take point.toNat ++ ("." : Text) ++ digits.drop point.toNat
  else digits ++ List.replicate (point.toNat - digits.length) 0x30 ++ (".0" : Text)

/-- Digits with a point after the first one and an exponent of at least two digits. -/
def scientific (digits : Text) (point : Int) : Text :=
  let e := point - 1
  let fraction : Text := if digits.length ≤ 1 then [] else ("." : Text) ++ digits.drop 1
  digits.take 1 ++ fraction ++ (if e < 0 then "e-" else "e+" : Text) ++ Text.padded 2 e.natAbs

/-- The text of a value. -/
def «show» : Binary64 → Text
  | .nan => "nan"
  | .infinite negative => if negative then "-inf" else "inf"
  | .finite negative mantissa exponent =>
    let sign : Text := if negative then "-" else []
    if mantissa = 0 then sign ++ "0.0"
    else
      let (digits, power) := shortest mantissa exponent
      let text := Text.ofNat digits
      let point := (text.length : Int) + power
      sign ++ (if -4 < point && point ≤ 16 then positional text point else scientific text point)

end CampaignDesk.Binary64
