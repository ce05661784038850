import CampaignDesk.Console.Markup

/-!
# The console

What the desk tells its user stands behind a mark: a tick, a cross, or an `i`. A terminal shows it in
lines: one that does not fit is folded.

* `Mark`: the marks.
* `Terminal`: what messages are shown on; `Terminal.layOut`: a text in lines that it can show.
* `Console.line`: a message behind a mark.
-/

namespace CampaignDesk

/-- What kind of message it is. -/
inductive Mark
  | success
  | failure
  | info
deriving DecidableEq

/-- The sign of a mark. -/
def Mark.sign : Mark → Text
  | .success => "\u2713"
  | .failure => "\u2717"
  | .info => "\u2139"

/-- The style in which a mark is shown. -/
def Mark.style : Mark → Text
  | .success => "bold green"
  | .failure => "bold red"
  | .info => "bold cyan"

/-- What messages are shown on: how many cells its lines have and how many a code point takes up, what a text
becomes when its emoji codes are replaced, and the lines that a line is folded to which does not fit. Neither
of the last two brings in surrogates. -/
structure Terminal where
  width : Nat
  cells : CodePoint → Nat
  emoji : Text → Text
  fold : Text → Text
  emoji_surrogate : ∀ t, ∀ c ∈ emoji t, c.isSurrogate = true → c ∈ t
  fold_surrogate : ∀ t, ∀ c ∈ fold t, c.isSurrogate = true → c ∈ t

namespace Terminal

/-- A terminal that has room for every line, and no emoji. -/
def wide : Terminal where
  width := 100000
  cells _ := 1
  emoji t := t
  fold t := t
  emoji_surrogate _ _ hc _ := hc
  fold_surrogate _ _ hc _ := hc

/-- Whether a line fits: its code points and their cells are no more than the width, and it has no tabs. -/
def fits (terminal : Terminal) (line : Text) : Bool :=
  line.length ≤ terminal.width && line.foldl (fun n c => n + terminal.cells c) 0 ≤ terminal.width &&
    !line.contains 0x09

/-- A text in lines that the terminal can show. -/
def layOut (terminal : Terminal) (t : Text) : Text :=
  Text.join "\n" ((Text.splitOn 0x0A t).map fun line =>
    if terminal.fits line then line else terminal.fold line)

end Terminal

namespace Console

/-- The control codes that are never shown: bell, backspace, vertical tab, form feed and carriage
return. -/
def isControl (c : CodePoint) : Bool := c = 7 || c = 8 || c = 11 || c = 12 || c = 13

/-- A mark and a message as markup. -/
def markup (m : Mark) (message : Text) : Text :=
  ("[" : Text) ++ m.style ++ ("]" : Text) ++ m.sign ++ ("[/" : Text) ++ m.style ++ ("] " : Text) ++
    Markup.escape message

/-- A message behind a mark, on lines of its own. -/
def line (m : Mark) (message : Text) (terminal : Terminal := .wide) : Text :=
  terminal.layOut ((Markup.render terminal.emoji (markup m message)).filter (!isControl ·)) ++
    ("\n" : Text)

end Console

end CampaignDesk
