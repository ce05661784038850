import CampaignDesk.Value.Basic

/-!
# Plain scalars

What an unquoted scalar of a YAML 1.1 document stands for. Certain words are null or truth values,
certain spellings are numbers in base two, eight, ten, sixteen or sixty, and all else is text.

* `Yaml.Scalar.resolve?`: the value of a plain scalar.
-/

namespace CampaignDesk.Yaml.Scalar

/-- The words for nothing. -/
def nullWords : List String := ["", "~", "null", "Null", "NULL"]

/-- The words for true. -/
def trueWords : List String := ["yes", "Yes", "YES", "true", "True", "TRUE", "on", "On", "ON"]

/-- The words for false. -/
def falseWords : List String := ["no", "No", "NO", "false", "False", "FALSE", "off", "Off", "OFF"]

/-- Whether a text is one of some words. -/
def isWord (words : List String) (t : Text) : Bool := words.any fun w => Text.ofString w = t

/-- A sign in front of a number, and what follows it. -/
def unsign : Text → Bool × Text
  | 0x2D :: rest => (true, rest)
  | 0x2B :: rest => (false, rest)
  | t => (false, t)

/-- The underscore, which may stand between digits. -/
def underscore : CodePoint := 0x5F

/-- The text without underscores. -/
def bare (t : Text) : Text := t.filter (· ≠ underscore)

/-- The number that digits of a base stand for. -/
def number (base : Nat) (digits : Text) : Nat :=
  digits.foldl (fun n c => n * base + c.hexValue?.getD 0) 0

/-- Digits of a base or underscores, at least one of them. -/
def isDigits (base : Nat) (t : Text) : Bool :=
  !t.isEmpty && t.all fun c =>
    c = underscore || (match c.hexValue? with
      | some d => d < base
      | none => false)

/-- A decimal number that begins with a digit. -/
def isDecimal (t : Text) : Bool :=
  match t with
  | c :: _ => c.isDigit && isDigits 10 t
  | [] => false

/-- One place of a number in base sixty: one digit, or two of which the first is below six. -/
def isSixtieth (t : Text) : Bool :=
  match t with
  | [a] => a.isDigit
  | [a, b] => a.isDigit && a.val < 0x36 && b.isDigit
  | _ => false

/-- The number that places in base sixty stand for. -/
def sixty (places : List Text) : Nat :=
  places.foldl (fun n p => n * 60 + number 10 (bare p)) 0

/-- The integer that a text without sign spells. -/
def natural? (t : Text) : Option Nat :=
  match t with
  | 0x30 :: 0x62 :: rest => if isDigits 2 rest then some (number 2 (bare rest)) else none
  | 0x30 :: 0x78 :: rest => if isDigits 16 rest then some (number 16 (bare rest)) else none
  | [0x30] => some 0
  | 0x30 :: rest => if isDigits 8 rest then some (number 8 (bare rest)) else none
  | t =>
    match Text.splitOn 0x3A t with
    | [whole] => if isDecimal whole then some (number 10 (bare whole)) else none
    | whole :: places =>
      if isDecimal whole && places.all isSixtieth then some (sixty (whole :: places)) else none
    | [] => none

/-- An exponent with a sign, or none at all. -/
def exponent? (t : Text) : Option Int :=
  match t with
  | [] => some 0
  | e :: sign :: digits =>
    if (e = 0x65 || e = 0x45) && (sign = 0x2D || sign = 0x2B) && !digits.isEmpty &&
        digits.all CodePoint.isDigit then
      let n : Int := number 10 digits
      some (if sign = 0x2D then -n else n)
    else none
  | _ => none

/-- The digits and underscores at the front of a text, and what follows them. -/
def spanDigits (t : Text) : Text × Text :=
  let here (c : CodePoint) : Bool := c.isDigit || c = underscore
  (t.takeWhile here, t.dropWhile here)

/-- The value of a fraction: a whole part in one or more places, and what follows the point. -/
def fraction (negative : Bool) (whole : Nat) (fractionDigits : Text) (exponent : Int) : Binary64 :=
  let digits := bare fractionDigits
  .ofDecimal negative (whole * Nat.pow 10 digits.length + number 10 digits)
    (exponent - digits.length)

/-- The words for infinity. -/
def infinityWords : List String := [".inf", ".Inf", ".INF"]

/-- The words for what is no number. -/
def nanWords : List String := [".nan", ".NaN", ".NAN"]

/-- The floating point number that a text spells. -/
def float? (t : Text) : Option Binary64 :=
  if isWord nanWords t then some .nan
  else
    let (negative, u) := unsign t
    let signed := u.length < t.length
    if isWord infinityWords u then some (.infinite negative)
    else
      let whole := u.takeWhile (· ≠ 0x2E)
      match u.dropWhile (· ≠ 0x2E) with
      | 0x2E :: rest =>
        let (digits, after) := spanDigits rest
        match exponent? after with
        | none => none
        | some e =>
          if whole.isEmpty then
            match digits with
            | d :: _ => if d.isDigit && !signed then some (fraction negative 0 digits e) else none
            | [] => none
          else
            match Text.splitOn 0x3A whole with
            | [w] =>
              if isDecimal w then some (fraction negative (number 10 (bare w)) digits e) else none
            | w :: places =>
              if isDecimal w && places.all isSixtieth && after.isEmpty then
                some (fraction negative (sixty (w :: places)) digits 0)
              else none
            | [] => none
      | _ => none

/-- The value of a plain scalar; a lone equals sign has none. -/
def resolve? (t : Text) : Option Value :=
  if isWord nullWords t then some .null
  else if isWord trueWords t then some (.bool true)
  else if isWord falseWords t then some (.bool false)
  else
    let (negative, u) := unsign t
    match natural? u with
    | some n => some (.int (if negative then -(n : Int) else n))
    | none =>
      match float? t with
      | some x => some (.float x)
      | none => if t = [0x3D] then none else some (.text t)

end CampaignDesk.Yaml.Scalar
