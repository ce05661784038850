import CampaignDesk.Value.Basic

/-!
# Reading JSON

A JSON text as a value. Numbers with a fraction or an exponent are floating point, `NaN` and the
infinities have names, of two members with one key the later value stands at the earlier place.

* `Json.read`: the value of a whole text, or the first problem with its position.
* `Json.readWithin`: the same by a reader that has room for so many levels of nesting and no more.
* `Json.Fault.message`: the problem in words, with line and column.
-/

namespace CampaignDesk.Json

/-- What is wrong with a text that is not JSON. -/
inductive Problem
  | byteOrderMark
  | noValue
  | noPropertyName
  | noColon
  | noComma
  | extraData
  | unterminatedString
  | controlCharacter
  | badEscape
  | badUnicodeEscape
deriving DecidableEq

/-- The problem in words. -/
def Problem.message : Problem → String
  | .byteOrderMark => "Unexpected UTF-8 BOM (decode using utf-8-sig)"
  | .noValue => "Expecting value"
  | .noPropertyName => "Expecting property name enclosed in double quotes"
  | .noColon => "Expecting ':' delimiter"
  | .noComma => "Expecting ',' delimiter"
  | .extraData => "Extra data"
  | .unterminatedString => "Unterminated string starting at"
  | .controlCharacter => "Invalid control character at"
  | .badEscape => "Invalid \\escape"
  | .badUnicodeEscape => "Invalid \\uXXXX escape"

/-- What nests in a text. -/
inductive Container
  | array
  | object
deriving DecidableEq

/-- The name of a container. -/
def Container.name : Container → String
  | .array => "array"
  | .object => "object"

/-- Why a text has no value: it breaks the grammar, an integer is too long to be read, or a container
is nested too deep. -/
inductive Fault
  | grammar (problem : Problem) (position : Nat)
  | tooManyDigits (count : Nat)
  | tooDeep (container : Container)
deriving DecidableEq

/-- The most digits that an integer may have. -/
def maxDigits : Nat := 4300

/-- What went wrong, about the given text. -/
def Fault.message (text : Text) : Fault → Text
  | .grammar problem position =>
    let (line, column) := text.lineAndColumn position
    Text.ofString problem.message ++ (": line " : Text) ++ Text.ofNat line ++
      (" column " : Text) ++ Text.ofNat column ++ (" (char " : Text) ++ Text.ofNat position ++
      (")" : Text)
  | .tooManyDigits count =>
    ("Exceeds the limit (4300 digits) for integer string conversion: value has " : Text) ++
      Text.ofNat count ++
      (" digits; use sys.set_int_max_str_digits() to increase the limit" : Text)
  | .tooDeep container =>
    ("maximum recursion depth exceeded while decoding a JSON " : Text) ++
      Text.ofString container.name ++ (" from a unicode string" : Text)

/-- What stops the reader; a place is given by how much text is left there. -/
inductive Stop
  | grammar (problem : Problem) (left : Nat)
  | tooManyDigits (count : Nat)
  | tooDeep (container : Container)
deriving DecidableEq

/-- The fault in a text of `size` code points. -/
def Stop.fault (size : Nat) : Stop → Fault
  | .grammar problem left => .grammar problem (size - left)
  | .tooManyDigits count => .tooManyDigits count
  | .tooDeep container => .tooDeep container

/-- A reader takes something from the front of a text. -/
abbrev Reader (α : Type) := Text → Except Stop (α × Text)

/-- The blanks between tokens. -/
def isSpace (c : CodePoint) : Bool := c = 0x20 || c = 0x09 || c = 0x0A || c = 0x0D

/-- What follows the blanks. -/
def skipSpace (t : Text) : Text := t.dropWhile isSpace

/-- The number that four hexadecimal digits stand for. -/
def hexNumber? (a b c d : CodePoint) : Option Nat :=
  match a.hexValue?, b.hexValue?, c.hexValue?, d.hexValue? with
  | some a, some b, some c, some d => some (((a * 16 + b) * 16 + c) * 16 + d)
  | _, _, _, _ => none

/-- The code point that a one-letter escape stands for. -/
def escaped? (c : CodePoint) : Option CodePoint :=
  if c = 0x22 || c = 0x5C || c = 0x2F then some c
  else if c = 0x62 then some 0x08
  else if c = 0x66 then some 0x0C
  else if c = 0x6E then some 0x0A
  else if c = 0x72 then some 0x0D
  else if c = 0x74 then some 0x09
  else none

/-- The second half of a pair, if the text goes on with its escape and does not end there. -/
def lowHalf : Reader (Option CodePoint)
  | 0x5C :: 0x75 :: a :: b :: c :: d :: e :: rest =>
    match hexNumber? a b c d with
    | none => .error (.grammar .badUnicodeEscape (rest.length + 6))
    | some n =>
      let low := CodePoint.ofNat n
      if low.isLowSurrogate then .ok (some low, e :: rest)
      else .ok (none, 0x5C :: 0x75 :: a :: b :: c :: d :: e :: rest)
  | t => .ok (none, t)

/-- What a backslash begins, read from behind it: one code point. `string` is the text behind the
opening quote of the string that it stands in. -/
def escape (string : Text) : Reader CodePoint
  | [] => .error (.grammar .unterminatedString (string.length + 1))
  | e :: rest =>
    if e = 0x75 then
      match rest with
      | a :: b :: c :: d :: f :: rest' =>
        match hexNumber? a b c d with
        | none => .error (.grammar .badUnicodeEscape (rest'.length + 6))
        | some n => do
          let high := CodePoint.ofNat n
          if high.isHighSurrogate then
            let (low?, rest'') ← lowHalf (f :: rest')
            return match low? with
              | some low => (CodePoint.ofPair high low, rest'')
              | none => (high, f :: rest')
          else return (high, f :: rest')
      | _ => .error (.grammar .badUnicodeEscape (rest.length + 1))
    else
      match escaped? e with
      | some c => .ok (c, rest)
      | none => .error (.grammar .badEscape (rest.length + 2))

/-- The rest of a string up to its closing quote; `fuel` bounds the code points it may have, and
`string` is the text behind its opening quote. -/
def stringRest (string : Text) : (fuel : Nat) → Reader Text
  | _, [] => .error (.grammar .unterminatedString (string.length + 1))
  | 0, _ => .error (.grammar .unterminatedString (string.length + 1))
  | fuel + 1, c :: rest =>
    if c = 0x22 then .ok ([], rest)
    else if c = 0x5C then do
      let (x, rest) ← escape string rest
      let (s, rest) ← stringRest string fuel rest
      return (x :: s, rest)
    else if c.val < 0x20 then .error (.grammar .controlCharacter (rest.length + 1))
    else do
      let (s, rest) ← stringRest string fuel rest
      return (c :: s, rest)

/-- A string, read from behind its opening quote. -/
def stringBody (t : Text) : Except Stop (Text × Text) := stringRest t t.length t

/-- The number that decimal digits stand for. -/
def digitsValue (digits : Text) : Nat :=
  digits.foldl (fun n c => 10 * n + (c.val - 0x30)) 0

/-- The digits of an integer part: zero alone, or no zero in front. -/
def integerDigits : Text → Text × Text
  | 0x30 :: rest => ([0x30], rest)
  | t => (t.takeWhile CodePoint.isDigit, t.dropWhile CodePoint.isDigit)

/-- A fraction, if a digit follows the point. -/
def fractionDigits (t : Text) : Text × Text :=
  match t with
  | 0x2E :: rest =>
    let digits := rest.takeWhile CodePoint.isDigit
    if digits.isEmpty then ([], t) else (digits, rest.dropWhile CodePoint.isDigit)
  | _ => ([], t)

/-- An exponent, if it has a digit. -/
def exponentPart (t : Text) : Option Int × Text :=
  match t with
  | [] => (none, t)
  | e :: rest =>
    if e = 0x65 || e = 0x45 then
      let (negative, rest) : Bool × Text := match rest with
        | 0x2D :: rest => (true, rest)
        | 0x2B :: rest => (false, rest)
        | rest => (false, rest)
      let digits := rest.takeWhile CodePoint.isDigit
      if digits.isEmpty then (none, t)
      else
        let n : Int := digitsValue digits
        (some (if negative then -n else n), rest.dropWhile CodePoint.isDigit)
    else (none, t)

/-- A number, read from behind its sign if it is negative. -/
def unsignedNumber (negative : Bool) : Reader Value := fun t =>
  let (whole, rest) := integerDigits t
  if whole.isEmpty then .error (.grammar .noValue (t.length + if negative then 1 else 0))
  else
    let (fraction, rest) := fractionDigits rest
    let (exponent, rest) := exponentPart rest
    if fraction.isEmpty && exponent.isNone then
      if whole.length > maxDigits then .error (.tooManyDigits whole.length)
      else
        let n : Int := digitsValue whole
        .ok (.int (if negative then -n else n), rest)
    else
      let power := exponent.getD 0 - fraction.length
      .ok (.float (.ofDecimal negative (digitsValue (whole ++ fraction)) power), rest)

/-- What follows a word at the front of the text. -/
def afterWord? (word : String) (t : Text) : Option Text :=
  let w := Text.ofString word
  if w.isPrefixOf t then some (t.drop w.length) else none

/-- The words that stand for values. -/
def words : List (String × Value) := [
  ("null", .null), ("true", .bool true), ("false", .bool false), ("NaN", .float .nan),
  ("Infinity", .float (.infinite false)), ("-Infinity", .float (.infinite true))]

/-- A word or a number. -/
def wordOrNumber : Reader Value := fun t =>
  match words.findSome? fun (word, v) => (afterWord? word t).map fun rest => (v, rest) with
  | some result => .ok result
  | none =>
    match t with
    | 0x2D :: rest => unsignedNumber true rest
    | _ => unsignedNumber false t

/-- The room that is left inside a container, if there is room for it. -/
def enter (container : Container) : (room : Nat) → Except Stop Nat
  | 0 => .error (.tooDeep container)
  | room + 1 => .ok room

mutual

/-- A value that begins right here; `room` bounds the levels of nesting, and `fuel` the work. -/
def value : (room fuel : Nat) → Reader Value
  | _, 0, t => .error (.grammar .noValue t.length)
  | _, _, [] => .error (.grammar .noValue 0)
  | room, fuel + 1, c :: rest =>
    if c = 0x22 then do
      let (s, rest) ← stringBody rest
      return (.text s, rest)
    else if c = 0x5B then do
      let room ← enter .array room
      match skipSpace rest with
      | 0x5D :: rest => return (.list [], rest)
      | rest =>
        let (items, rest) ← items room fuel rest
        return (.list items, rest)
    else if c = 0x7B then do
      let room ← enter .object room
      match skipSpace rest with
      | 0x7D :: rest => return (.dict [], rest)
      | rest =>
        let (members, rest) ← members room fuel rest
        return (.dict (Value.entriesOf members), rest)
    else wordOrNumber (c :: rest)

/-- The elements of an array up to its closing bracket. -/
def items : (room fuel : Nat) → Reader (List Value)
  | _, 0, t => .error (.grammar .noValue t.length)
  | room, fuel + 1, t => do
    let (v, rest) ← value room fuel t
    match skipSpace rest with
    | 0x5D :: rest => return ([v], rest)
    | 0x2C :: rest =>
      let (vs, rest) ← items room fuel (skipSpace rest)
      return (v :: vs, rest)
    | rest => .error (.grammar .noComma rest.length)

/-- The members of an object up to its closing brace. -/
def members : (room fuel : Nat) → Reader Entries
  | _, 0, t => .error (.grammar .noPropertyName t.length)
  | room, fuel + 1, t =>
    match t with
    | 0x22 :: rest => do
      let (k, rest) ← stringBody rest
      match skipSpace rest with
      | 0x3A :: rest =>
        let (v, rest) ← value room fuel (skipSpace rest)
        match skipSpace rest with
        | 0x7D :: rest => return ([(.text k, v)], rest)
        | 0x2C :: rest =>
          let (es, rest) ← members room fuel (skipSpace rest)
          return ((.text k, v) :: es, rest)
        | rest => .error (.grammar .noComma rest.length)
      | rest => .error (.grammar .noColon rest.length)
    | _ => .error (.grammar .noPropertyName t.length)

end

/-- A whole text: blanks, one value, blanks. Every step of the reader that counts takes at least one
code point, so twice the length is work enough. -/
def document (room : Nat) (t : Text) : Except Stop Value := do
  if t.head? = some 0xFEFF then throw (.grammar .byteOrderMark t.length)
  let (v, rest) ← value room (2 * t.length + 1) (skipSpace t)
  match skipSpace rest with
  | [] => return v
  | rest => throw (.grammar .extraData rest.length)

/-- The value of a JSON text, for a reader with room for so many levels of nesting. -/
def readWithin (room : Nat) (t : Text) : Except Fault Value :=
  (document room t).mapError (Stop.fault t.length)

/-- The value of a JSON text. A level of nesting takes a code point, so there is room for all. -/
def read (t : Text) : Except Fault Value := readWithin t.length t

end CampaignDesk.Json
