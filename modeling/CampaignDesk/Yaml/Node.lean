import CampaignDesk.Yaml.Scalar
import CampaignDesk.Yaml.Token

/-!
# Nodes of a YAML document

A document as nested scalars, sequences and mappings, and the value that it stands for. A node may
be missing wherever a collection can go on without it; what is missing stands for nothing.

* `Yaml.Node.ofTokens?`: the node of a document, unless its tokens make none.
* `Yaml.Node.value?`: the value of a node.
* `Yaml.read?`: the value of a text.
-/

namespace CampaignDesk.Yaml

/-- A node of a document. -/
inductive Node
  | scalar (plain : Bool) (text : Text)
  | sequence (items : List Node)
  | mapping (entries : List (Node × Node))

namespace Node

/-- What stands where a node is missing. -/
def missing : Node := .scalar true []

/-- Where a node stands: inside brackets, where no block collection may begin, or outside; the value
of a block mapping may be a sequence that is not indented. -/
inductive Place
  | flow
  | block
  | blockValue
deriving DecidableEq

/-- The first token, unless it is one of those before which a node may be missing. -/
def isPresent (stops : List Token) (tokens : List Token) : Bool :=
  match tokens with
  | t :: _ => !stops.contains t
  | [] => true

mutual

/-- One node. -/
def node? : (fuel : Nat) → Place → List Token → Option (Node × List Token)
  | 0, _, _ => none
  | fuel + 1, place, tokens =>
    match tokens with
    | .scalar plain text :: rest => some (.scalar plain text, rest)
    | .flowSequenceStart :: rest => do
      let (items, rest) ← flowItems? fuel true rest
      return (.sequence items, rest)
    | .flowMappingStart :: rest => do
      let (entries, rest) ← flowEntries? fuel true rest
      return (.mapping entries, rest)
    | .blockSequenceStart :: rest =>
      if place = .flow then none
      else do
        let (items, rest) ← blockItems? fuel true rest
        return (.sequence items, rest)
    | .blockMappingStart :: rest =>
      if place = .flow then none
      else do
        let (entries, rest) ← blockEntries? fuel rest
        return (.mapping entries, rest)
    | .blockEntry :: _ =>
      if place = .blockValue then do
        let (items, rest) ← blockItems? fuel false tokens
        return (.sequence items, rest)
      else none
    | _ => none

/-- A node, which may be missing before certain tokens. -/
def optional? : (fuel : Nat) → Place → (stops : List Token) → List Token →
    Option (Node × List Token)
  | 0, _, _, _ => none
  | fuel + 1, place, stops, tokens =>
    if isPresent stops tokens then node? fuel place tokens else some (missing, tokens)

/-- The items of a block sequence; one that is not indented has no token at its end. -/
def blockItems? : (fuel : Nat) → (indented : Bool) → List Token → Option (List Node × List Token)
  | 0, _, _ => none
  | fuel + 1, indented, .blockEntry :: rest => do
    let stops : List Token :=
      if indented then [.blockEntry, .blockEnd] else [.blockEntry, .key, .value, .blockEnd]
    let (item, rest) ← optional? fuel .block stops rest
    let (items, rest) ← blockItems? fuel indented rest
    return (item :: items, rest)
  | _ + 1, true, .blockEnd :: rest => some ([], rest)
  | _ + 1, true, _ => none
  | _ + 1, false, rest => some ([], rest)

/-- The entries of a block mapping. -/
def blockEntries? : (fuel : Nat) → List Token → Option (List (Node × Node) × List Token)
  | 0, _ => none
  | fuel + 1, .key :: rest => do
    let (key, rest) ← optional? fuel .blockValue [.key, .value, .blockEnd] rest
    let (value, rest) ← blockValue? fuel rest
    let (entries, rest) ← blockEntries? fuel rest
    return ((key, value) :: entries, rest)
  | _ + 1, .blockEnd :: rest => some ([], rest)
  | _ + 1, _ => none

/-- The value of an entry of a block mapping. -/
def blockValue? : (fuel : Nat) → List Token → Option (Node × List Token)
  | 0, _ => none
  | fuel + 1, .value :: rest => optional? fuel .blockValue [.key, .value, .blockEnd] rest
  | _ + 1, rest => some (missing, rest)

/-- The items of a sequence in brackets; an item with a colon is a mapping of one entry. -/
def flowItems? : (fuel : Nat) → (first : Bool) → List Token → Option (List Node × List Token)
  | 0, _, _ => none
  | _ + 1, _, .flowSequenceEnd :: rest => some ([], rest)
  | fuel + 1, false, .flowEntry :: rest => flowItems? fuel true rest
  | _ + 1, false, _ => none
  | fuel + 1, true, .key :: rest => do
    let (key, rest) ← optional? fuel .flow [.value, .flowEntry, .flowSequenceEnd] rest
    let (value, rest) ← flowValue? fuel .flowSequenceEnd rest
    let (items, rest) ← flowItems? fuel false rest
    return (.mapping [(key, value)] :: items, rest)
  | fuel + 1, true, rest => do
    let (item, rest) ← node? fuel .flow rest
    let (items, rest) ← flowItems? fuel false rest
    return (item :: items, rest)

/-- The entries of a mapping in braces; a key may stand there without a value. -/
def flowEntries? : (fuel : Nat) → (first : Bool) → List Token →
    Option (List (Node × Node) × List Token)
  | 0, _, _ => none
  | _ + 1, _, .flowMappingEnd :: rest => some ([], rest)
  | fuel + 1, false, .flowEntry :: rest => flowEntries? fuel true rest
  | _ + 1, false, _ => none
  | fuel + 1, true, .key :: rest => do
    let (key, rest) ← optional? fuel .flow [.value, .flowEntry, .flowMappingEnd] rest
    let (value, rest) ← flowValue? fuel .flowMappingEnd rest
    let (entries, rest) ← flowEntries? fuel false rest
    return ((key, value) :: entries, rest)
  | fuel + 1, true, rest => do
    let (key, rest) ← node? fuel .flow rest
    let (entries, rest) ← flowEntries? fuel false rest
    return ((key, missing) :: entries, rest)

/-- The value of an entry inside brackets, which end with a given token. -/
def flowValue? : (fuel : Nat) → (close : Token) → List Token → Option (Node × List Token)
  | 0, _, _ => none
  | fuel + 1, close, .value :: rest => optional? fuel .flow [.flowEntry, close] rest
  | _ + 1, _, rest => some (missing, rest)

end

/-- Tokens after a document: marks of its end and nothing else. -/
def isOver (tokens : List Token) : Bool := tokens.all (· = .documentEnd)

/-- The node of a document, which begins with a mark or without one. -/
def ofTokens? (tokens : List Token) : Option Node := do
  let fuel := 4 * (tokens.length + 1)
  let (root, rest) ← match tokens with
    | [] => some (missing, [])
    | .documentStart :: rest =>
      if rest.isEmpty then some (missing, [])
      else optional? fuel .block [.documentStart, .documentEnd] rest
    | tokens => node? fuel .block tokens
  if isOver rest then return root else none

/-- A value as a key of a dictionary; collections are none. -/
def key? : Value → Option Key
  | .null => some .null
  | .bool b => some (.bool b)
  | .int n => some (.int n)
  | .float x => some (.float x)
  | .text t => some (.text t)
  | _ => none

/-- The value of a scalar as it stands; between quotes it is always text. -/
def scalarValue? (plain : Bool) (text : Text) : Option Value :=
  if plain then Scalar.resolve? text else some (.text text)

/-- The key that a key node stands for, given its value; a lone equals sign is a text there. -/
def keyOf? : Node → Option Value → Option Key
  | .scalar true [0x3D], _ => some (.ofString "=")
  | _, v => v.bind key?

/-- Whether a key asks for the entries of other mappings to be taken over. -/
def isMerge : Node → Bool
  | .scalar true text => text = [0x3C, 0x3C]
  | _ => false

/-- The entries that a merge takes over: those of a mapping, or of several, the first of which
counts most. -/
def merged? : Value → Option Entries
  | .dict entries => some entries
  | .list items => do
    let all ← items.mapM fun v =>
      match v with
      | .dict entries => some entries
      | _ => none
    return all.reverse.flatten
  | _ => none

mutual

/-- The value of a node. -/
def value? : Node → Option Value
  | .scalar plain text => scalarValue? plain text
  | .sequence items => (itemValues? items).map .list
  | .mapping entries => do
    let (taken, own) ← assignments? entries
    return .dict (Value.entriesOf (taken ++ own))
termination_by structural n => n

/-- The values of the items of a sequence. -/
def itemValues? : List Node → Option (List Value)
  | [] => some []
  | n :: ns => do
    let v ← value? n
    let vs ← itemValues? ns
    return v :: vs
termination_by structural ns => ns

/-- The entries of a mapping: those taken over by merges, and its own. -/
def assignments? : List (Node × Node) → Option (Entries × Entries)
  | [] => some ([], [])
  | (k, n) :: rest => do
    let v ← value? n
    let (taken, own) ← assignments? rest
    if isMerge k then return ((← merged? v) ++ taken, own)
    else return (taken, (← keyOf? k (value? k), v) :: own)
termination_by structural entries => entries

end

end Node

/-- The value of the single document in a text; an empty text stands for nothing. This is the part of the
language that settings are written in: dates, tags, anchors and block scalars are not known. -/
def read? (text : Text) : Option Value := do
  let root ← Node.ofTokens? (← Token.scan? text)
  root.value?

end CampaignDesk.Yaml
