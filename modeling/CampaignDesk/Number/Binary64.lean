/-!
# Binary numbers of 64 bits

Floating point values as data: a sign, a mantissa below `2 ^ 53` and a power of two.

* `ofRatio`: the value nearest to a quotient, a half going to the even neighbour.
* `ofDecimal`: the value nearest to a decimal.
* `equalsInt`, `same`: comparison by value, where no value is equal to `nan` and zero has one value.
-/

namespace CampaignDesk

/-- A binary floating point value; a finite one is `± mantissa · 2 ^ exponent`. -/
inductive Binary64
  | nan
  | infinite (negative : Bool)
  | finite (negative : Bool) (mantissa : Nat) (exponent : Int)
deriving DecidableEq

namespace Binary64

/-- The least exponent. -/
def minExponent : Int := -1074

/-- The greatest exponent. -/
def maxExponent : Int := 971

/-- The quotient rounded to the nearest number, a half to the even one. -/
def divNearest (num den : Nat) : Nat :=
  let q := num / den
  let twice := 2 * (num % den)
  if twice < den || (twice = den && q % 2 = 0) then q else q + 1

/-- `num / den` scaled by `2 ^ (-exponent)`, as a quotient of two numbers. -/
def scaled (num den : Nat) (exponent : Int) : Nat × Nat :=
  if 0 ≤ exponent then (num, den * Nat.pow 2 exponent.toNat)
  else (num * Nat.pow 2 (-exponent).toNat, den)

/-- A mantissa that rounding has carried to `2 ^ 53` is halved, and what lies beyond the greatest
exponent is infinite. -/
def normal (negative : Bool) (mantissa : Nat) (exponent : Int) : Binary64 :=
  let (mantissa, exponent) :=
    if mantissa = Nat.pow 2 53 then (Nat.pow 2 52, exponent + 1) else (mantissa, exponent)
  if exponent > maxExponent then .infinite negative else .finite negative mantissa exponent

/-- The value nearest to `± num / den`. -/
def ofRatio (negative : Bool) (num den : Nat) : Binary64 :=
  if num = 0 then .finite negative 0 minExponent
  else
    let guess : Int := (Nat.log2 num : Int) - (Nat.log2 den : Int) - 53
    let (n, d) := scaled num den guess
    let exponent := max minExponent (if n / d < Nat.pow 2 53 then guess else guess + 1)
    let (n, d) := scaled num den exponent
    normal negative (divNearest n d) exponent

/-- The value nearest to `± digits · 10 ^ power`. A decimal far outside the range of finite values
is settled by its magnitude alone. -/
def ofDecimal (negative : Bool) (digits : Nat) (power : Int) : Binary64 :=
  if digits = 0 then .finite negative 0 minExponent
  else
    let magnitude := (Nat.log2 digits : Int) / 4 + power
    if magnitude > 400 then .infinite negative
    else if (Nat.log2 digits : Int) / 3 + 1 + power < -400 then .finite negative 0 minExponent
    else if 0 ≤ power then ofRatio negative (digits * Nat.pow 10 power.toNat) 1
    else ofRatio negative digits (Nat.pow 10 (-power).toNat)

/-- Zero of either sign. -/
def isZero : Binary64 → Bool
  | .finite _ 0 _ => true
  | _ => false

/-- Equality by value: `nan` differs from itself, and zero has one value. -/
def same (x y : Binary64) : Bool :=
  match x, y with
  | .nan, _ | _, .nan => false
  | x, y => x = y || (x.isZero && y.isZero)

/-- Whether the value is exactly an integer `n`. -/
def equalsInt (x : Binary64) (n : Int) : Bool :=
  match x with
  | .finite negative m e =>
    let signed : Int := if negative then -(m : Int) else m
    if 0 ≤ e then signed * Nat.pow 2 e.toNat = n else signed = n * Nat.pow 2 (-e).toNat
  | _ => false

/-- The integer part, toward zero; infinite values and `nan` have none. -/
def truncate? (x : Binary64) : Option Int :=
  match x with
  | .finite negative m e =>
    let magnitude : Nat := if 0 ≤ e then m * Nat.pow 2 e.toNat else m / Nat.pow 2 (-e).toNat
    some (if negative then -(magnitude : Int) else magnitude)
  | _ => none

end Binary64

end CampaignDesk
