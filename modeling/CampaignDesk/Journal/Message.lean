import CampaignDesk.Journal.Record
import CampaignDesk.Number.Decimal
import CampaignDesk.Text.Upper

/-!
# Messages with places

A message may hold places for arguments: `%s` for a value as it reads, `%r` and `%a` for its literal form,
`%c` for one code point, `%d`, `%o` and `%x` for whole numbers, `%f`, `%e` and `%g` for others, and `%%` for a
percent sign. Between the percent sign and the letter there may be a key in parentheses, flags, a width and a
precision; a star stands for a width or a precision that is an argument itself. A message that is given no
arguments stands as it is.

* `Message.fill?`: the message with its arguments in place.
* `Record.fill?`: a record with the arguments in the places of its message.
-/

namespace CampaignDesk.Message

/-- The arguments still to be filled in: values in order, or a dictionary, in which `next` is what
a place without a key takes. -/
inductive Supply
  | items (rest : List Value)
  | named (entries : Entries) (next : Option Value)

/-- The supply of some arguments; a single dictionary that is not empty is looked into by key. -/
def supply : List Value → Supply
  | [.dict (e :: es)] => .named (e :: es) (some (.dict (e :: es)))
  | args => .items args

/-- A place that finds no argument. -/
def tooFew : Failure := .typeError "not enough arguments for format string"

/-- Arguments that found no place. -/
def tooMany : Failure := .typeError "not all arguments converted during string formatting"

/-- A place that is not finished. -/
def incomplete : Failure := .valueError "incomplete format"

/-- The next argument. -/
def take? : Supply → Except Failure (Value × Supply)
  | .items (v :: rest) => .ok (v, .items rest)
  | .items [] => .error tooFew
  | .named entries (some v) => .ok (v, .named entries none)
  | .named _ none => .error tooFew

/-- What is left over in the end must be nothing. -/
def finish? : Supply → Except Failure Text
  | .items (_ :: _) => .error tooMany
  | _ => .ok []

/-- A key between parentheses, read from behind the first of them, and what follows it; `depth`
counts the parentheses opened inside. -/
def key? : (depth : Nat) → Text → Except Failure (Text × Text)
  | _, [] => .error (.valueError "incomplete format key")
  | depth, c :: rest =>
    if c = 0x29 then
      match depth with
      | 0 => .ok ([], rest)
      | depth + 1 => do
        let (name, rest) ← key? depth rest
        return (c :: name, rest)
    else do
      let (name, rest) ← key? (if c = 0x28 then depth + 1 else depth) rest
      return (c :: name, rest)

/-- The argument with the key that a text begins with comes next; what follows the key is left. -/
def choose? (t : Text) : Supply → Except Failure (Supply × Text)
  | .items _ => .error (.typeError "format requires a mapping")
  | .named entries _ => do
    let (name, rest) ← key? 0 t
    match Value.lookup? name entries with
    | some v => return (.named entries (some v), rest)
    | none => throw (.new .keyError name.quoted)

/-- How an argument is laid out at its place. -/
structure Place where
  flags : Text
  width : Nat
  precision : Option Nat

/-- Whether a place has a flag. -/
def Place.has (p : Place) (flag : CodePoint) : Bool := p.flags.contains flag

/-- The flags of a place. -/
def isFlag (c : CodePoint) : Bool := ("-+ #0" : Text).contains c

/-- A number at the front of a text, zero if there is none, and what follows it; it must be below a limit. -/
def number? (limit : Nat) (complaint : String) (t : Text) : Except Failure (Nat × Text) :=
  let n := (t.takeWhile CodePoint.isDigit).foldl (fun n c => n * 10 + (c.val - 0x30)) 0
  if n < limit then .ok (n, t.dropWhile CodePoint.isDigit) else .error (.valueError complaint)

/-- The next argument as a number of the place itself, which must fit into a number of the machine. -/
def takeNumber? (limit : Nat) (kind : String) (s : Supply) : Except Failure (Int × Supply) := do
  let (v, s) ← take? s
  match v with
  | .int n =>
    if -(limit : Int) ≤ n && n < limit then return (n, s)
    else throw (.new .overflowError (Text.ofString ("Python int too large to convert to C " ++ kind)))
  | .bool b => return (if b then 1 else 0, s)
  | _ => throw (.typeError "* wants int")

/-- The width of a place, read from behind its flags; a negative one that is an argument asks for blanks behind
the argument. -/
def width? (flags : Text) (s : Supply) (t : Text) : Except Failure (Place × Supply × Text) := do
  match t with
  | 0x2A :: t =>
    let (n, s) ← takeNumber? (Nat.pow 2 63) "ssize_t" s
    return (⟨if n < 0 then 0x2D :: flags else flags, n.natAbs, none⟩, s, t)
  | t =>
    let (n, t) ← number? (Nat.pow 2 63) "width too big" t
    return (⟨flags, n, none⟩, s, t)

/-- The precision of a place, read from behind its width; a negative one that is an argument counts as zero. -/
def precision? (p : Place) (s : Supply) (t : Text) : Except Failure (Place × Supply × Text) := do
  match t with
  | 0x2E :: 0x2A :: t =>
    let (n, s) ← takeNumber? (Nat.pow 2 31) "int" s
    return ({ p with precision := some n.toNat }, s, t)
  | 0x2E :: t =>
    let (n, t) ← number? (Nat.pow 2 31) "precision too big" t
    return ({ p with precision := some n }, s, t)
  | t => return (p, s, t)

/-- A place read from behind its key, the arguments left, and what follows, beginning with the letter. -/
def place? (s : Supply) (t : Text) : Except Failure (Place × Supply × Text) := do
  let (p, s, t) ← width? (t.takeWhile isFlag) s (t.dropWhile isFlag)
  precision? p s t

/-- Without the letter that may tell the size of a number. -/
def skipSize (t : Text) : Text :=
  match t with
  | c :: rest => if ("hlL" : Text).contains c then rest else t
  | [] => []

/-- A text laid out at a place, with blanks up to the width. -/
def layText (p : Place) (t : Text) : Text :=
  let blanks : Text := List.replicate (p.width - t.length) 0x20
  if p.has 0x2D then t ++ blanks else blanks ++ t

/-- As much of a text as a place has room for, laid out there. -/
def layCut (p : Place) (t : Text) : Text :=
  layText p (match p.precision with
    | some n => t.take n
    | none => t)

/-- A number laid out at a place: its sign, what stands in front of its digits, and the digits. -/
def layNumber (p : Place) (negative : Bool) (front digits : Text) : Text :=
  let sign : Text :=
    if negative then "-" else if p.has 0x2B then "+" else if p.has 0x20 then " " else []
  let missing := p.width - (sign ++ front ++ digits).length
  if p.has 0x30 && !p.has 0x2D then sign ++ front ++ List.replicate missing 0x30 ++ digits
  else layText p (sign ++ front ++ digits)

/-- The numerals in which whole numbers are written: their base, what marks them, and whether their letters are
capitals. -/
structure Numeral where
  base : Nat
  mark : Text
  capital : Bool

/-- A whole number laid out at a place. -/
def layInt (p : Place) (numeral : Numeral) (n : Int) : Except Failure Text :=
  let least := p.precision.getD 1
  if Nat.pow 2 31 - 4 < least then .error (.new .overflowError "precision too large")
  else
    let digits := (Nat.toDigits numeral.base n.natAbs).map CodePoint.ofChar
    let digits : Text := List.replicate (least - digits.length) 0x30 ++ digits
    .ok (layNumber p (n < 0) (if p.has 0x23 then numeral.mark else [])
      (if numeral.capital then Text.upper digits else digits))

/-- An argument that is not of the kind that a letter asks for. -/
def mismatch (letter : CodePoint) (wanted : String) (v : Value) : Failure :=
  .typeError
    (("%" : Text) ++ letter :: (" format: " : Text) ++ Text.ofString wanted ++ (" is required, not " : Text) ++
      Text.ofString v.typeName)

/-- The whole number that a value counts as for `%d`; a fraction is dropped. -/
def whole? (letter : CodePoint) : Value → Except Failure Int
  | .int n => if isShowableInt n then .ok n else .error .tooLong
  | .bool b => .ok (if b then 1 else 0)
  | .float x =>
    match x with
    | .nan => .error (.valueError "cannot convert float NaN to integer")
    | .infinite _ => .error (.new .overflowError "cannot convert float infinity to integer")
    | x => .ok (x.truncate?.getD 0)
  | v => .error (mismatch letter "a real number" v)

/-- The whole number that a value is for `%x` and `%o`, which take no fractions. -/
def integer? (letter : CodePoint) : Value → Except Failure Int
  | .int n => .ok n
  | .bool b => .ok (if b then 1 else 0)
  | v => .error (mismatch letter "an integer" v)

/-- The number that a value counts as. -/
def real? : Value → Except Failure Binary64
  | .float x => .ok x
  | .int n =>
    match Binary64.ofRatio (n < 0) n.natAbs 1 with
    | .infinite _ => .error (.new .overflowError "int too large to convert to float")
    | x => .ok x
  | .bool b => .ok (Binary64.ofRatio false (if b then 1 else 0) 1)
  | v => .error (.typeError (("must be real number, not " : Text) ++ Text.ofString v.typeName))

/-- A number laid out at a place, with six places or digits unless the place says how many. -/
def layReal (p : Place) (style : Binary64.Style) (capital : Bool) (x : Binary64) : Text :=
  let digits := x.write style (p.has 0x23) (p.precision.getD 6)
  layNumber p x.isNegative [] (if capital then Text.upper digits else digits)

/-- The code point that a value stands for. -/
def point? : Value → Except Failure CodePoint
  | .text [c] => .ok c
  | .int n =>
    if 0 ≤ n && n < 0x110000 then .ok (CodePoint.ofNat n.toNat)
    else .error (.new .overflowError "%c arg not in range(0x110000)")
  | .bool b => .ok (CodePoint.ofNat (if b then 1 else 0))
  | _ => .error (.typeError "%c requires int or char")

/-- The literal form of a value in the first 128 code points. -/
def plainLiteral (v : Value) : Text :=
  v.literal.flatMap fun c => if c.val < 0x80 then [c] else Failure.escapedPoint c

/-- A letter that asks for nothing known, found at a position. -/
def unsupported (letter : CodePoint) (position : Nat) : Failure :=
  let shown : CodePoint := if 31 ≤ letter.val && letter.val < 127 then letter else 0x3F
  let hex := (Nat.toDigits 16 letter.val).map CodePoint.ofChar
  .valueError
    (("unsupported format character '" : Text) ++ shown :: ("' (0x" : Text) ++ hex ++
      (") at index " : Text) ++ Text.ofNat position)

/-- What a letter asks for. -/
inductive Wish
  | shown
  | literal
  | plainLiteral
  | point
  | whole
  | integer (numeral : Numeral)
  | real (style : Binary64.Style) (capital : Bool)

/-- The letters that ask for something. -/
def wishes : List (Char × Wish) :=
  [('s', .shown), ('r', .literal), ('a', .plainLiteral), ('c', .point),
    ('d', .whole), ('i', .whole), ('u', .whole),
    ('o', .integer ⟨8, "0o", false⟩), ('x', .integer ⟨16, "0x", false⟩), ('X', .integer ⟨16, "0X", true⟩),
    ('e', .real .scientific false), ('E', .real .scientific true), ('f', .real .fixed false),
    ('F', .real .fixed true), ('g', .real .general false), ('G', .real .general true)]

/-- What a letter asks for, if it asks for anything. -/
def wish? (letter : CodePoint) : Option Wish :=
  (wishes.find? fun entry => CodePoint.ofChar entry.1 = letter).map Prod.snd

/-- An argument as a letter asks for it. -/
def lay? (p : Place) (letter : CodePoint) (position : Nat) (v : Value) : Except Failure Text := do
  match wish? letter with
  | some .shown => return layCut p (← v.show?)
  | some .literal => if v.isShowable then return layCut p v.literal else throw .tooLong
  | some .plainLiteral => if v.isShowable then return layCut p (plainLiteral v) else throw .tooLong
  | some .point => return layText p [← point? v]
  | some .whole => layInt p ⟨10, [], false⟩ (← whole? letter v)
  | some (.integer numeral) => layInt p numeral (← integer? letter v)
  | some (.real style capital) => return layReal p style capital (← real? v)
  | none => throw (unsupported letter position)

/-- One place, read from behind its percent sign in a message of `size` code points: what stands
there, the arguments left, and what follows. -/
def placed? (size : Nat) (s : Supply) (t : Text) : Except Failure (Text × Supply × Text) := do
  let (s, t) ← match t with
    | 0x28 :: rest => choose? rest s
    | t => pure (s, t)
  let (p, s, t) ← place? s t
  match skipSize t with
  | [] => throw incomplete
  | letter :: rest =>
    let (v, s) ← take? s
    return (← lay? p letter (size - rest.length - 1) v, s, rest)

/-- The rest of a message of `size` code points with the arguments left in place. -/
def fillFrom? (size : Nat) : (fuel : Nat) → Supply → Text → Except Failure Text
  | 0, s, _ | _, s, [] => finish? s
  | fuel + 1, s, c :: rest =>
    if c = 0x25 then
      match rest with
      | 0x25 :: rest => do return 0x25 :: (← fillFrom? size fuel s rest)
      | rest => do
        let (t, s, rest) ← placed? size s rest
        return t ++ (← fillFrom? size fuel s rest)
    else do return c :: (← fillFrom? size fuel s rest)

/-- A message with its arguments in place. -/
def fill? (message : Text) (args : List Value) : Except Failure Text :=
  if args.isEmpty then .ok message
  else fillFrom? message.length message.length (supply args) message

end CampaignDesk.Message

namespace CampaignDesk

/-- A record with the arguments in the places of its message. -/
def Record.fill? (r : Record) (args : List Value) : Except Failure Record := do
  return { r with message := ← Message.fill? r.message args }

end CampaignDesk
