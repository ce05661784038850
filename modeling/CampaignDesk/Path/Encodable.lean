import CampaignDesk.Failure.Basic

/-!
# Paths that the system takes

A path reaches the file system as bytes. The surrogates from U+DC80 on stand for single bytes; any
other surrogate cannot be handed over, and neither can a zero.
-/

namespace CampaignDesk.Path

/-- A surrogate that stands for a byte of a name which is not UTF-8. -/
def standsForByte (c : CodePoint) : Bool := 0xDC80 ≤ c.val && c.val ≤ 0xDCFF

/-- The first run of surrogates that has no bytes, in a path that begins at `position`. -/
def encodeFaultFrom (position : Nat) : Text → Option Utf8.EncodeFault
  | [] => none
  | c :: rest =>
    if c.isSurrogate && !standsForByte c then
      some ⟨position, ((c :: rest).takeWhile CodePoint.isSurrogate).length, c⟩
    else encodeFaultFrom (position + 1) rest

/-- Why the system takes no such path. -/
def refusal? (path : Text) : Option Failure :=
  match encodeFaultFrom 0 path with
  | some fault => some (.unencodable fault)
  | none => if path.contains 0 then some (.valueError "embedded null byte") else none

/-- The number of bytes of a name. -/
def byteLength (name : Text) : Nat :=
  name.foldl (fun n c => n + if standsForByte c then 1 else (Utf8.encodePoint c).length) 0

end CampaignDesk.Path
