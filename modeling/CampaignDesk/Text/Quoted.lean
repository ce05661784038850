import CampaignDesk.Text.Printable

/-!
# Quoted text

A text between quotes as a message shows it: single quotes unless the text holds a single quote and
no double one. The quote itself and the backslash are escaped, and what does not print is written
by number.
-/

namespace CampaignDesk.Text

/-- One code point between quotes of the given kind. -/
def quotedPoint (quote c : CodePoint) : Text :=
  if c = quote || c = 0x5C then [0x5C, c]
  else if c = 0x0A then [0x5C, 0x6E]
  else if c = 0x0D then [0x5C, 0x72]
  else if c = 0x09 then [0x5C, 0x74]
  else if c.isPrintable then [c]
  else if c.val < 0x100 then [0x5C, 0x78] ++ hex 2 c.val
  else if c.val < 0x10000 then [0x5C, 0x75] ++ hex 4 c.val
  else [0x5C, 0x55] ++ hex 8 c.val

/-- The quote that a text is put between. -/
def quoteFor (text : Text) : CodePoint :=
  if text.contains 0x27 && !text.contains 0x22 then 0x22 else 0x27

/-- The text between quotes. -/
def quoted (text : Text) : Text :=
  let quote := quoteFor text
  quote :: text.flatMap (quotedPoint quote) ++ [quote]

end CampaignDesk.Text
