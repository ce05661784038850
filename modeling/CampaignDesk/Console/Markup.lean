import CampaignDesk.Text.Basic

/-!
# Console markup

Texts for the console may hold tags in brackets, which set a style and are not shown. A backslash
in front of a tag makes it plain text, and two backslashes there stand for one.

* `Markup.pieces`: a markup as plain runs and tags.
* `Markup.escape`: a text as markup.
* `Markup.render`: what of a markup is shown.
-/

namespace CampaignDesk.Markup

/-- The backslash. -/
def backslash : CodePoint := 0x5C

/-- What a tag may begin with behind its bracket: a small letter, `#`, `/` or `@`. -/
def beginsTag (c : CodePoint) : Bool := c.isLower || c = 0x23 || c = 0x2F || c = 0x40

/-- A tag at the front of a text, with its brackets, and what follows it; no bracket is opened
inside a tag. -/
def tag? : Text → Option (Text × Text)
  | 0x5B :: c :: rest =>
    if beginsTag c then
      let inner := rest.takeWhile fun d => d ≠ 0x5B && d ≠ 0x5D
      match rest.drop inner.length with
      | 0x5D :: after => some (0x5B :: c :: inner ++ [0x5D], after)
      | _ => none
    else none
  | _ => none

/-- A piece of markup: a plain run, or a tag with the number of backslashes in front of it. -/
inductive Piece
  | plain (run : Text)
  | tag (slashes : Nat) (text : Text)
deriving DecidableEq

/-- One more code point in front of the first plain run. -/
def attach (c : CodePoint) : List Piece → List Piece
  | .plain run :: rest => .plain (c :: run) :: rest
  | rest => .plain [c] :: rest

/-- The pieces of a text that is no longer than `fuel`. -/
def piecesFrom : (fuel : Nat) → Text → List Piece
  | 0, _ | _, [] => []
  | fuel + 1, c :: rest =>
    let slashes := (c :: rest).takeWhile (· = backslash)
    match tag? ((c :: rest).drop slashes.length) with
    | some (t, after) => .tag slashes.length t :: piecesFrom fuel after
    | none => attach c (piecesFrom fuel rest)

/-- A markup as plain runs and tags. -/
def pieces (markup : Text) : List Piece := piecesFrom markup.length markup

/-- Some backslashes. -/
def slashes (n : Nat) : Text := List.replicate n backslash

/-- A piece with what makes its tag plain: twice its backslashes and one more. -/
def Piece.escape : Piece → Text
  | .plain run => run
  | .tag n t => slashes (2 * n + 1) ++ t

/-- Whether a text ends with exactly one backslash. -/
def endsOpen (t : Text) : Bool :=
  match t.reverse with
  | c :: rest => c = backslash && rest.head? ≠ some backslash
  | [] => false

/-- A text as markup: its tags are made plain, and a single backslash at its end is doubled. -/
def escape (text : Text) : Text :=
  let markup := (pieces text).flatMap Piece.escape
  if endsOpen markup then markup ++ [backslash] else markup

/-- What is shown of a piece, in the parts in which it is shown: a plain run without the backslashes before
its brackets; of a tag half its backslashes, and the tag itself if their number is odd. -/
def Piece.parts : Piece → List Text
  | .plain run => [Text.replace [backslash, 0x5B] [0x5B] run]
  | .tag n t =>
    (if n / 2 = 0 then [] else [slashes (n / 2)]) ++ (if n % 2 = 1 then [t] else [])

/-- What of a markup is shown, with the emoji codes in each part replaced. -/
def render (emoji : Text → Text) (markup : Text) : Text :=
  ((pieces markup).flatMap Piece.parts).flatMap emoji

end CampaignDesk.Markup
