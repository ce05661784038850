import CampaignDesk.Failure.Basic

/-!
# Writing JSON

A value as JSON text in printable ASCII. Every other code point inside a string is escaped, beyond
the first plane as a surrogate pair. Tuples are written as arrays, and keys as strings.

* `Json.compact`: everything on one line.
* `Json.indented`: one element a line, with a given number of spaces for each level.
* `Json.obstacle?`: what keeps a value from being written. `Json.compose?`: the text of a value that
  nothing keeps from it.
-/

namespace CampaignDesk.Json

/-- A code point as one or two four-digit escapes. -/
def unicodeEscape (c : CodePoint) : Text :=
  if c.val < 0x10000 then [0x5C, 0x75] ++ Text.hex 4 c.val
  else
    let n := c.val - 0x10000
    [0x5C, 0x75] ++ Text.hex 4 (0xD800 + n / 0x400) ++ [0x5C, 0x75] ++
      Text.hex 4 (0xDC00 + n % 0x400)

/-- One code point inside a string. -/
def escapePoint (c : CodePoint) : Text :=
  if c = 0x22 then [0x5C, 0x22]
  else if c = 0x5C then [0x5C, 0x5C]
  else if c = 0x0A then [0x5C, 0x6E]
  else if c = 0x0D then [0x5C, 0x72]
  else if c = 0x09 then [0x5C, 0x74]
  else if c = 0x08 then [0x5C, 0x62]
  else if c = 0x0C then [0x5C, 0x66]
  else if 0x20 ≤ c.val && c.val < 0x7F then [c]
  else unicodeEscape c

/-- A text as a JSON string. -/
def string (t : Text) : Text := [0x22] ++ t.flatMap escapePoint ++ [0x22]

/-- A floating point number; the infinities and `nan` have names. -/
def number (x : Binary64) : Text :=
  match x with
  | .nan => "NaN"
  | .infinite negative => if negative then "-Infinity" else "Infinity"
  | x => x.show

/-- The text of a truth value. -/
def boolean (b : Bool) : Text := if b then "true" else "false"

/-- A key as a JSON string. -/
def key : Key → Text
  | .text t => string t
  | .null => string "null"
  | .bool b => string (boolean b)
  | .int n => string (Text.ofInt n)
  | .float x => string (number x)

/-- What separates the parts of arrays and objects. -/
structure Layout where
  /-- The spaces of one level, or `none` for everything on one line. -/
  indent : Option Nat

namespace Layout

/-- A new line at a level, or nothing. -/
def newline (l : Layout) (level : Nat) : Text :=
  match l.indent with
  | none => []
  | some width => 0x0A :: List.replicate (width * level) 0x20

/-- What stands between two elements. -/
def separator (l : Layout) (level : Nat) : Text :=
  match l.indent with
  | none => ", "
  | some _ => 0x2C :: l.newline level

end Layout

/-- Brackets around parts, which stand one level deeper; brackets around nothing stay closed. -/
def bracketed (l : Layout) (level : Nat) (opening closing : CodePoint) (parts : List Text) : Text :=
  if parts.isEmpty then [opening, closing]
  else
    [opening] ++ l.newline (level + 1) ++ Text.join (l.separator (level + 1)) parts ++
      l.newline level ++ [closing]

mutual

/-- A value at a level of nesting. -/
def write (l : Layout) (level : Nat) (v : Value) : Text :=
  match v with
  | .null => "null"
  | .bool b => boolean b
  | .int n => Text.ofInt n
  | .float x => number x
  | .text t => string t
  | .list items => bracketed l level 0x5B 0x5D (writeItems l (level + 1) items)
  | .tuple items => bracketed l level 0x5B 0x5D (writeItems l (level + 1) items)
  | .dict entries => bracketed l level 0x7B 0x7D (writeEntries l (level + 1) entries)
termination_by structural v

/-- The elements of an array. -/
def writeItems (l : Layout) (level : Nat) (items : List Value) : List Text :=
  match items with
  | [] => []
  | x :: xs => write l level x :: writeItems l level xs
termination_by structural items

/-- The members of an object. -/
def writeEntries (l : Layout) (level : Nat) (entries : Entries) : List Text :=
  match entries with
  | [] => []
  | (k, v) :: es => (key k ++ (": " : Text) ++ write l level v) :: writeEntries l level es
termination_by structural entries

end

/-- The value on one line. -/
def compact (v : Value) : Text := write ⟨none⟩ 0 v

/-- The value with one element a line and `width` spaces for each level. -/
def indented (width : Nat) (v : Value) : Text := write ⟨some width⟩ 0 v

/-- A value that is nested too deep to be written, in the words for one that is written on one line. -/
def tooDeep : Failure :=
  .new .recursionError "maximum recursion depth exceeded while encoding a JSON object"

mutual

/-- What keeps a value from being written, the first there is from left to right: a number of too many
digits, or a container for which there is no room left. -/
def obstacle? (room : Nat) (v : Value) : Option Failure :=
  match v with
  | .int n => if isShowableInt n then none else some .tooLong
  | .list items =>
    match room with
    | 0 => some tooDeep
    | room + 1 => itemsObstacle? room items
  | .tuple items =>
    match room with
    | 0 => some tooDeep
    | room + 1 => itemsObstacle? room items
  | .dict entries =>
    match room with
    | 0 => some tooDeep
    | room + 1 => entriesObstacle? room entries
  | _ => none
termination_by structural v

/-- What keeps the elements of an array from being written. -/
def itemsObstacle? (room : Nat) (items : List Value) : Option Failure :=
  match items with
  | [] => none
  | x :: xs => (obstacle? room x).or (itemsObstacle? room xs)
termination_by structural items

/-- What keeps the members of an object from being written. -/
def entriesObstacle? (room : Nat) (entries : Entries) : Option Failure :=
  match entries with
  | [] => none
  | (k, v) :: es =>
    if k.isShowable then (obstacle? room v).or (entriesObstacle? room es) else some .tooLong
termination_by structural entries

end

/-- The text of a value, if nothing keeps it from being written with room for so many levels. -/
def compose? (room : Nat) (l : Layout) (v : Value) : Except Failure Text :=
  match obstacle? room v with
  | none => .ok (write l 0 v)
  | some f => .error f

end CampaignDesk.Json
