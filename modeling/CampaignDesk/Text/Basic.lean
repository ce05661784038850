/-!
# Text as code points

A text is a list of code points. Surrogates are ordinary elements of a text: they can be held,
compared and printed, and are refused only where a text has to become bytes.

* `CodePoint`, `Text`: the two types.
* `Text.ofString`: the text of a string, also a coercion.
* `Text.replace`, `Text.splitOn`, `Text.join`: substitution, splitting and joining.
* `Text.lineAndColumn`: where a position lies, counted from one.
-/

namespace CampaignDesk

/-- A code point: a scalar value or a surrogate. -/
abbrev CodePoint := Fin 0x110000

/-- There are code points, and numerals stand for them. -/
instance CodePoint.neZero : @NeZero Nat Zero.ofOfNat0 0x110000 := ⟨Nat.succ_ne_zero _⟩

/-- A sequence of code points. -/
abbrev Text := List CodePoint

namespace CodePoint

/-- The code point of a character. -/
def ofChar (c : Char) : CodePoint :=
  ⟨c.toNat, by
    have := c.valid
    simp only [UInt32.isValidChar, Nat.isValidChar] at this
    unfold Char.toNat
    omega⟩

/-- The code point with a given number, reduced into range. -/
def ofNat (n : Nat) : CodePoint := Fin.ofNat 0x110000 n

/-- A leading surrogate, the first half of a pair. -/
def isHighSurrogate (c : CodePoint) : Bool := 0xD800 ≤ c.val && c.val < 0xDC00

/-- A trailing surrogate, the second half of a pair. -/
def isLowSurrogate (c : CodePoint) : Bool := 0xDC00 ≤ c.val && c.val < 0xE000

/-- A surrogate of either kind. -/
def isSurrogate (c : CodePoint) : Bool := 0xD800 ≤ c.val && c.val < 0xE000

/-- The code point beyond the first plane that a surrogate pair stands for. -/
def ofPair (high low : CodePoint) : CodePoint :=
  ofNat (0x10000 + (high.val - 0xD800) * 0x400 + (low.val - 0xDC00))

/-- A decimal digit of the first 128 code points. -/
def isDigit (c : CodePoint) : Bool := 0x30 ≤ c.val && c.val ≤ 0x39

/-- A small letter of the first 128 code points. -/
def isLower (c : CodePoint) : Bool := 0x61 ≤ c.val && c.val ≤ 0x7A

/-- The digit for `n < 16`, with small letters from ten on. -/
def hexDigit (n : Nat) : CodePoint := ofNat (if n < 10 then 0x30 + n else 0x57 + n)

/-- The number that a hexadecimal digit of either case stands for. -/
def hexValue? (c : CodePoint) : Option Nat :=
  if 0x30 ≤ c.val && c.val ≤ 0x39 then some (c.val - 0x30)
  else if 0x61 ≤ c.val && c.val ≤ 0x66 then some (c.val - 0x57)
  else if 0x41 ≤ c.val && c.val ≤ 0x46 then some (c.val - 0x37)
  else none

end CodePoint

namespace Text

/-- The text of a string. -/
def ofString (s : String) : Text := s.toList.map CodePoint.ofChar

instance : Coe String Text := ⟨ofString⟩

theorem ofString_ne_nil {s : String} (h : s ≠ "") : ofString s ≠ [] := by
  simpa [ofString] using h

/-- The decimal digits of a number. -/
def ofNat (n : Nat) : Text := (Nat.toDigits 10 n).map CodePoint.ofChar

/-- The decimal digits of an integer, with a minus sign in front of a negative one. -/
def ofInt (n : Int) : Text := if n < 0 then ofString "-" ++ ofNat n.natAbs else ofNat n.natAbs

/-- The last `width` hexadecimal digits of a number. -/
def hex : (width : Nat) → Nat → Text
  | 0, _ => []
  | width + 1, n => hex width (n / 16) ++ [CodePoint.hexDigit (n % 16)]

/-- A number with zeros in front up to `width` digits. -/
def padded (width n : Nat) : Text :=
  let digits := ofNat n
  List.replicate (width - digits.length) 0x30 ++ digits

/-- The texts in order with a separator between each two. -/
def join (separator : Text) : List Text → Text
  | [] => []
  | [t] => t
  | t :: rest => t ++ separator ++ join separator rest

/-- The pieces between the occurrences of one code point; there is always at least one. -/
def splitOn (separator : CodePoint) : Text → List Text
  | [] => [[]]
  | c :: rest =>
    if c = separator then [] :: splitOn separator rest
    else match splitOn separator rest with
      | [] => [[c]]
      | piece :: pieces => (c :: piece) :: pieces

/-- Whether `part` occurs in the text. -/
def includes (part : Text) : Text → Bool
  | [] => part.isEmpty
  | c :: rest => part.isPrefixOf (c :: rest) || includes part rest

/-- Every occurrence of `old`, found from the left without overlap, becomes `new`; after a match
`skip` code points are still to be passed over. -/
def replaceFrom (old new : Text) : (skip : Nat) → Text → Text
  | _, [] => []
  | skip + 1, _ :: rest => replaceFrom old new skip rest
  | 0, c :: rest =>
    if old.isPrefixOf (c :: rest) then new ++ replaceFrom old new (old.length - 1) rest
    else c :: replaceFrom old new 0 rest

/-- Every occurrence of a non-empty `old`, found from the left without overlap, becomes `new`. -/
def replace (old new text : Text) : Text := replaceFrom old new 0 text

/-- Whether one text comes before another, by code points from the left. -/
def isBefore : Text → Text → Bool
  | _, [] => false
  | [], _ :: _ => true
  | a :: s, b :: t => a < b || (a = b && isBefore s t)

/-- Texts in ascending order of their code points. -/
def sort (texts : List Text) : List Text := texts.mergeSort (fun s t => !isBefore t s)

/-- The line and the column of a position, both counted from one; lines end at a line feed. -/
def lineAndColumn (text : Text) (position : Nat) : Nat × Nat :=
  let before := text.take position
  (before.count 0x0A + 1, (before.reverse.takeWhile (· ≠ 0x0A)).length + 1)

/-- Line ends become line feeds; `afterReturn` says that a line feed here belongs to a carriage
return that has already been answered. -/
def unifyLineEndsFrom : (afterReturn : Bool) → Text → Text
  | _, [] => []
  | afterReturn, c :: rest =>
    if c = 0x0D then 0x0A :: unifyLineEndsFrom true rest
    else if afterReturn && c = 0x0A then unifyLineEndsFrom false rest
    else c :: unifyLineEndsFrom false rest

/-- A carriage return, alone or with a line feed after it, becomes one line feed. -/
def unifyLineEnds (text : Text) : Text := unifyLineEndsFrom false text

/-- Removes the members of a class at both ends. -/
def trimBoth (drop : CodePoint → Bool) (text : Text) : Text :=
  ((text.dropWhile drop).reverse.dropWhile drop).reverse

/-- The string of a text; a surrogate has no character and becomes the replacement character. -/
def toString (text : Text) : String :=
  String.ofList (text.map fun c => if c.isSurrogate then '\uFFFD' else Char.ofNat c.val)

end Text

end CampaignDesk
