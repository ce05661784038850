import CampaignDesk.Text.Basic

/-!
# Tokens of a YAML document

A document as tokens. Indentation opens and closes block collections, a colon turns what stands
before it on its line into a key, and inside brackets neither matters. Covered are block and flow
collections, plain and quoted scalars, comments and document marks.

* `Yaml.Token.scan?`: the tokens of a text, unless it breaks a rule.
-/

namespace CampaignDesk.Yaml

/-- A token. -/
inductive Token
  | documentStart
  | documentEnd
  | blockSequenceStart
  | blockMappingStart
  | blockEnd
  | flowSequenceStart
  | flowSequenceEnd
  | flowMappingStart
  | flowMappingEnd
  | blockEntry
  | flowEntry
  | key
  | value
  | scalar (plain : Bool) (text : Text)
deriving DecidableEq

namespace Token

/-- A code point that a document may hold. -/
def isAllowed (c : CodePoint) : Bool :=
  let n := c.val
  n = 0x09 || n = 0x0A || n = 0x0D || (0x20 ≤ n && n ≤ 0x7E) || n = 0x85 ||
    (0xA0 ≤ n && n ≤ 0xD7FF) || (0xE000 ≤ n && n ≤ 0xFFFD) || 0x10000 ≤ n

/-- The end of a line. -/
def isBreak (c : CodePoint) : Bool :=
  c = 0x0A || c = 0x0D || c = 0x85 || c = 0x2028 || c = 0x2029

/-- The end of a word. -/
def isGap (c : CodePoint) : Bool := c = 0x20 || c = 0x09 || isBreak c

/-- Whether a text has ended or goes on with the end of a word. -/
def atGap (t : Text) : Bool :=
  match t with
  | [] => true
  | c :: _ => isGap c

/-- A bracket or comma of a flow collection. -/
def isFlowMark (c : CodePoint) : Bool :=
  c = 0x2C || c = 0x5B || c = 0x5D || c = 0x7B || c = 0x7D

/-- Where something that may turn out to be a key began: the number of tokens before it, its column
and its line, and whether it has to be a key. -/
structure Candidate where
  tokens : Nat
  column : Nat
  line : Nat
  index : Nat
  required : Bool

/-- What is known between two tokens. `indents` are the columns of the open block collections, the
innermost first; `candidates` holds at most one possible key for each level of brackets. -/
structure Scanner where
  rest : Text
  index : Nat
  line : Nat
  column : Nat
  level : Nat
  indents : List Nat
  mayBeKey : Bool
  candidates : List (Nat × Candidate)
  tokens : List Token

/-- The scanner at the start of a text. -/
def Scanner.start (t : Text) : Scanner := ⟨t, 0, 0, 0, 0, [], true, [], []⟩

namespace Scanner

/-- Past one code point. A byte order mark takes no column. -/
def step (s : Scanner) : Scanner :=
  match s.rest with
  | [] => s
  | c :: rest =>
    let crlf := c = 0x0D && rest.head? = some 0x0A
    if isBreak c && !crlf then
      { s with rest := rest, index := s.index + 1, line := s.line + 1, column := 0 }
    else if c = 0xFEFF then { s with rest := rest, index := s.index + 1 }
    else { s with rest := rest, index := s.index + 1, column := s.column + 1 }

/-- Past several code points. -/
def steps : Nat → Scanner → Scanner
  | 0, s => s
  | n + 1, s => steps n s.step

/-- Past the end of a line, of which a carriage return and a line feed make one. -/
def pastBreak (s : Scanner) : Scanner :=
  if [0x0D, 0x0A].isPrefixOf s.rest then s.step.step else s.step

/-- Past the code points of a class. -/
def skipWhile (s : Scanner) (p : CodePoint → Bool) : Scanner :=
  steps (s.rest.takeWhile p).length s

/-- One more token. -/
def push (s : Scanner) (t : Token) : Scanner := { s with tokens := s.tokens ++ [t] }

/-- Closes the block collections that begin to the right of a column. -/
def unwindTo (column : Nat) : List Nat → Scanner → Scanner
  | [], s => { s with indents := [] }
  | i :: rest, s =>
    if column < i then unwindTo column rest (s.push .blockEnd) else { s with indents := i :: rest }

/-- Closes all block collections. -/
def unwindAll (s : Scanner) : Scanner :=
  { s with
    indents := []
    tokens := s.tokens ++ List.replicate s.indents.length .blockEnd }

/-- Closes the block collections that end before the present column. -/
def unwind (s : Scanner) : Scanner := if s.level > 0 then s else unwindTo s.column s.indents s

/-- The candidate at the present level of brackets. -/
def candidate? (s : Scanner) : Option Candidate :=
  (s.candidates.find? fun c => c.1 = s.level).map (·.2)

/-- Without the candidate at the present level. -/
def forget (s : Scanner) : Scanner :=
  { s with candidates := s.candidates.filter fun c => c.1 ≠ s.level }

/-- Drops the candidate at the present level, which must not be one that has to be a key. -/
def drop? (s : Scanner) : Option Scanner :=
  match s.candidate? with
  | some c => if c.required then none else some s.forget
  | none => some s

/-- Drops the candidates that are no longer on the present line or too far back. -/
def dropStale? (s : Scanner) : Option Scanner :=
  let isStale (c : Nat × Candidate) : Bool :=
    c.2.line ≠ s.line || 1024 < s.index - c.2.index
  if s.candidates.any fun c => isStale c && c.2.required then none
  else some { s with candidates := s.candidates.filter fun c => !isStale c }

/-- Notes that what comes next may turn out to be a key. -/
def remember? (s : Scanner) : Option Scanner :=
  if s.mayBeKey then do
    let required := s.level = 0 && s.indents.head? = some s.column
    let s ← s.drop?
    return { s with
      candidates := (s.level, ⟨s.tokens.length, s.column, s.line, s.index, required⟩) ::
        s.candidates }
  else some s

/-- Whether a block collection at a column would be a new one. -/
def opens (s : Scanner) (column : Nat) : Bool :=
  match s.indents with
  | [] => true
  | i :: _ => i < column

/-- Opens a block collection at a column with a token at a given place, if it is a new one. -/
def openBlock (s : Scanner) (column place : Nat) (t : Token) : Scanner :=
  if s.level = 0 && s.opens column then
    { s with
      indents := column :: s.indents
      tokens := s.tokens.take place ++ [t] ++ s.tokens.drop place }
  else s

/-- Past blanks, comments and line ends to the next token; a new line outside brackets may begin
with a key. -/
def seek : (fuel : Nat) → Scanner → Scanner
  | 0, s => s
  | fuel + 1, s =>
    let s := s.skipWhile (· = 0x20)
    let s := if s.rest.head? = some 0x23 then s.skipWhile (!isBreak ·) else s
    match s.rest with
    | c :: _ =>
      if isBreak c then
        let s := s.step
        seek fuel (if s.level = 0 then { s with mayBeKey := true } else s)
      else s
    | [] => s

/-- Whether the present line begins with a document mark of three equal code points. -/
def atMark (s : Scanner) (c : CodePoint) : Bool :=
  s.column = 0 && [c, c, c].isPrefixOf s.rest && atGap (s.rest.drop 3)

/-- Whether the present place is one of the two document marks. -/
def atAnyMark (s : Scanner) : Bool := s.atMark 0x2D || s.atMark 0x2E

/-- Line ends after the first one, with the blanks between them: the line ends kept, or nothing if a
document mark comes first. -/
def foldBreaks (blank : CodePoint → Bool) : (fuel : Nat) → Scanner → Option (Text × Scanner)
  | 0, s => some ([], s)
  | fuel + 1, s =>
    if s.atAnyMark then none
    else
      let s := s.skipWhile blank
      match s.rest with
      | c :: _ =>
        if isBreak c then do
          let (more, s) ← foldBreaks blank fuel s.pastBreak
          return ((if c = 0x2028 || c = 0x2029 then c else 0x0A) :: more, s)
        else some ([], s)
      | [] => some ([], s)

/-- What a line end and those after it stand for inside a scalar. -/
def folded (first : CodePoint) (more : Text) : Text :=
  if first = 0x2028 || first = 0x2029 then first :: more
  else if more.isEmpty then [0x20] else more

/-- The word of a plain scalar that begins here: it ends at a gap, at a colon before a gap, and
inside brackets at the marks of a flow collection. -/
def plainWord (inFlow : Bool) : Text → Text
  | [] => []
  | c :: rest =>
    if isGap c then []
    else if c = 0x3A && (atGap rest || (inFlow && rest.head?.any isFlowMark)) then []
    else if inFlow && (isFlowMark c || c = 0x3F) then []
    else c :: plainWord inFlow rest

/-- A plain scalar: words with what stands between them. Outside brackets a later line belongs to
it only if it is indented more than the collection around. -/
def plain (indent : Nat) : (fuel : Nat) → (between : Text) → Scanner → Text × Scanner
  | 0, _, s => ([], s)
  | fuel + 1, between, s =>
    if s.rest.head? = some 0x23 then ([], s)
    else
      let word := plainWord (s.level > 0) s.rest
      if word.isEmpty then ([], s)
      else
        let s := { steps word.length s with mayBeKey := false }
        let blanks := s.rest.takeWhile (· = 0x20)
        let s := steps blanks.length s
        let spaces : Option Text × Scanner :=
          match s.rest with
          | c :: _ =>
            if isBreak c then
              let s := { s.pastBreak with mayBeKey := true }
              match foldBreaks (· = 0x20) s.rest.length s with
              | some (more, s) => (some (folded c more), s)
              | none => (none, s)
            else (if blanks.isEmpty then none else some blanks, s)
          | [] => (if blanks.isEmpty then none else some blanks, s)
        match spaces with
        | (none, s) => (between ++ word, s)
        | (some spaces, s) =>
          if s.rest.head? = some 0x23 || (s.level = 0 && s.column < indent) then
            (between ++ word, s)
          else
            let (more, s) := plain indent fuel spaces s
            (between ++ word ++ more, s)

/-- The escapes of one letter in a double-quoted scalar. -/
def escapes : List (CodePoint × CodePoint) := [
  (0x30, 0x00), (0x61, 0x07), (0x62, 0x08), (0x74, 0x09), (0x09, 0x09), (0x6E, 0x0A),
  (0x76, 0x0B), (0x66, 0x0C), (0x72, 0x0D), (0x65, 0x1B), (0x20, 0x20), (0x22, 0x22),
  (0x5C, 0x5C), (0x2F, 0x2F), (0x4E, 0x85), (0x5F, 0xA0), (0x4C, 0x2028), (0x50, 0x2029)]

/-- The number of digits of an escape by number. -/
def escapeWidth? (c : CodePoint) : Option Nat :=
  if c = 0x78 then some 2 else if c = 0x75 then some 4 else if c = 0x55 then some 8 else none

/-- What a backslash begins in a double-quoted scalar, read from behind it. -/
def escape? (s : Scanner) : Option (Text × Scanner) :=
  match s.rest with
  | [] => none
  | c :: rest =>
    match escapes.find? fun e => e.1 = c with
    | some (_, x) => some ([x], s.step)
    | none =>
      match escapeWidth? c with
      | some width =>
        let digits := rest.take width
        if digits.length = width && digits.all fun d => d.hexValue?.isSome then
          let n := digits.foldl (fun n d => n * 16 + d.hexValue?.getD 0) 0
          if n < 0x110000 then some ([CodePoint.ofNat n], steps (width + 1) s) else none
        else none
      | none =>
        if isBreak c then foldBreaks (fun c => c = 0x20 || c = 0x09) rest.length s.pastBreak
        else none

/-- A quoted scalar, read from behind its opening quote. -/
def quoted (double : Bool) : (fuel : Nat) → Scanner → Option (Text × Scanner)
  | 0, _ => none
  | fuel + 1, s =>
    let quote : CodePoint := if double then 0x22 else 0x27
    match s.rest with
    | [] => none
    | c :: rest =>
      if c = quote then
        if !double && rest.head? = some quote then do
          let (more, s) ← quoted double fuel (steps 2 s)
          return (quote :: more, s)
        else some ([], s.step)
      else if double && c = 0x5C then do
        let (x, s) ← escape? s.step
        let (more, s) ← quoted double fuel s
        return (x ++ more, s)
      else if isGap c then do
        let blanks := s.rest.takeWhile fun c => c = 0x20 || c = 0x09
        let s := steps blanks.length s
        match s.rest with
        | [] => none
        | b :: _ =>
          if isBreak b then
            let (breaks, s) ← foldBreaks (fun c => c = 0x20 || c = 0x09) s.rest.length s.pastBreak
            let (more, s) ← quoted double fuel s
            return (folded b breaks ++ more, s)
          else
            let (more, s) ← quoted double fuel s
            return (blanks ++ more, s)
      else do
        let (more, s) ← quoted double fuel s.step
        return (c :: more, s)

/-- A document mark. -/
def fetchMark? (s : Scanner) (t : Token) : Option Scanner := do
  let s ← s.unwindAll.drop?
  return { (steps 3 s).push t with mayBeKey := false }

/-- The opening bracket of a flow collection. -/
def fetchOpen? (s : Scanner) (t : Token) : Option Scanner := do
  let s ← s.remember?
  return { s.step.push t with level := s.level + 1, mayBeKey := true }

/-- The closing bracket of a flow collection. -/
def fetchClose? (s : Scanner) (t : Token) : Option Scanner := do
  let s ← s.drop?
  return { s.step.push t with level := s.level - 1, mayBeKey := false }

/-- A dash before an entry of a block sequence. -/
def fetchEntry? (s : Scanner) : Option Scanner :=
  if s.level = 0 && !s.mayBeKey then none
  else do
    let s := s.openBlock s.column s.tokens.length .blockSequenceStart
    let s ← s.drop?
    return { s.step.push .blockEntry with mayBeKey := true }

/-- A question mark before a key. -/
def fetchKey? (s : Scanner) : Option Scanner :=
  if s.level = 0 && !s.mayBeKey then none
  else do
    let s := s.openBlock s.column s.tokens.length .blockMappingStart
    let s ← s.drop?
    return { s.step.push .key with mayBeKey := s.level = 0 }

/-- A colon before a value: what stands before it on its line becomes the key. -/
def fetchValue? (s : Scanner) : Option Scanner :=
  match s.candidate? with
  | some c =>
    let s := s.forget
    let s := { s with tokens := s.tokens.take c.tokens ++ Token.key :: s.tokens.drop c.tokens }
    let s := s.openBlock c.column c.tokens .blockMappingStart
    some { s.step.push .value with mayBeKey := false }
  | none =>
    if s.level = 0 && !s.mayBeKey then none
    else do
      let s := s.openBlock s.column s.tokens.length .blockMappingStart
      let s ← { s with mayBeKey := s.level = 0 }.drop?
      return s.step.push .value

/-- A scalar between quotes. -/
def fetchQuoted? (s : Scanner) (double : Bool) : Option Scanner := do
  let s ← s.remember?
  let s := { s with mayBeKey := false }
  let (t, s) ← quoted double s.rest.length s.step
  return s.push (.scalar false t)

/-- A scalar without quotes. -/
def fetchPlain? (s : Scanner) : Option Scanner := do
  let s ← s.remember?
  let s := { s with mayBeKey := false }
  let indent := match s.indents with
    | [] => 0
    | i :: _ => i + 1
  let (t, s) := plain indent s.rest.length [] s
  return s.push (.scalar true t)

/-- Whether a plain scalar may begin with a code point, given what follows it. -/
def beginsPlain (inFlow : Bool) (c : CodePoint) (rest : Text) : Bool :=
  let indicators : Text := "-?:,[]\x7b\x7d#&*!|>'\"%@\x60"
  !(isGap c || indicators.contains c) ||
    (!atGap rest && (c = 0x2D || (!inFlow && (c = 0x3F || c = 0x3A))))

/-- The next token, at a code point with what follows it. -/
def fetch? (s : Scanner) (c : CodePoint) (rest : Text) : Option Scanner :=
  let inFlow := s.level > 0
  if c = 0x25 && s.column = 0 then none
  else if s.atMark 0x2D then s.fetchMark? .documentStart
  else if s.atMark 0x2E then s.fetchMark? .documentEnd
  else if c = 0x5B then s.fetchOpen? .flowSequenceStart
  else if c = 0x7B then s.fetchOpen? .flowMappingStart
  else if c = 0x5D then s.fetchClose? .flowSequenceEnd
  else if c = 0x7D then s.fetchClose? .flowMappingEnd
  else if c = 0x2C then do
    let s ← { s with mayBeKey := true }.drop?
    return s.step.push .flowEntry
  else if c = 0x2D && atGap rest then s.fetchEntry?
  else if c = 0x3F && (inFlow || atGap rest) then s.fetchKey?
  else if c = 0x3A && (inFlow || atGap rest) then s.fetchValue?
  else if c = 0x27 then s.fetchQuoted? false
  else if c = 0x22 then s.fetchQuoted? true
  else if beginsPlain inFlow c rest then s.fetchPlain?
  else none

/-- All tokens; each takes at least one code point. -/
def run? : (fuel : Nat) → Scanner → Option (List Token)
  | 0, _ => none
  | fuel + 1, s => do
    let s ← (seek (s.rest.length + 1) s).dropStale?
    let s := s.unwind
    match s.rest with
    | [] => do
      let s ← s.unwindAll.drop?
      return s.tokens
    | c :: rest => run? fuel (← s.fetch? c rest)

end Scanner

/-- The tokens of a document, which may begin with a byte order mark. -/
def scan? (t : Text) : Option (List Token) :=
  let t := if t.head? = some 0xFEFF then t.drop 1 else t
  if t.all isAllowed then (Scanner.start t).run? (t.length + 1) else none

end Token

end CampaignDesk.Yaml
