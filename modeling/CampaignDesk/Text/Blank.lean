import CampaignDesk.Text.Basic

/-!
# Blank text

A text is blank if it holds white space only. White space is taken in the Unicode sense: the
separators of lines, paragraphs and words, and the control characters that separate.
-/

namespace CampaignDesk

/-- White space: bidirectional class B, S or WS, or a space separator. -/
def CodePoint.isBlank (c : CodePoint) : Bool :=
  let n := c.val
  (0x09 ≤ n && n ≤ 0x0D) || (0x1C ≤ n && n ≤ 0x20) || n = 0x85 || n = 0xA0 || n = 0x1680 ||
    (0x2000 ≤ n && n ≤ 0x200A) || n = 0x2028 || n = 0x2029 || n = 0x202F || n = 0x205F ||
    n = 0x3000

namespace Text

/-- Empty or white space only. -/
def isBlank (text : Text) : Bool := text.all CodePoint.isBlank

end Text

end CampaignDesk
