import CampaignDesk.Text.Basic

/-!
# UTF-8

Texts as bytes and back. Encoding refuses surrogates; decoding accepts exactly the shortest form
of each scalar value and says where and why it stops.

* `encode?`: the bytes of a text, or the first run of surrogates.
* `decode?`: the text of bytes, or the first bytes that are no code point.
-/

namespace CampaignDesk

/-- The content of a file. -/
abbrev Bytes := List UInt8

namespace Utf8

/-- A run of surrogates in a text, which has no bytes. -/
structure EncodeFault where
  first : Nat
  count : Nat
  point : CodePoint
deriving DecidableEq

/-- Why some bytes are no code point. -/
inductive DecodeProblem
  | startByte
  | continuation
  | endOfData
deriving DecidableEq

/-- The bytes from `first` on that are no code point; `byte` is the first of them. -/
structure DecodeFault where
  problem : DecodeProblem
  first : Nat
  count : Nat
  byte : UInt8
deriving DecidableEq

/-- The bytes of one code point. -/
def encodePoint (c : CodePoint) : Bytes :=
  let n := c.val
  if n < 0x80 then [UInt8.ofNat n]
  else if n < 0x800 then [UInt8.ofNat (0xC0 + n / 0x40), UInt8.ofNat (0x80 + n % 0x40)]
  else if n < 0x10000 then
    [UInt8.ofNat (0xE0 + n / 0x1000), UInt8.ofNat (0x80 + n / 0x40 % 0x40),
      UInt8.ofNat (0x80 + n % 0x40)]
  else
    [UInt8.ofNat (0xF0 + n / 0x40000), UInt8.ofNat (0x80 + n / 0x1000 % 0x40),
      UInt8.ofNat (0x80 + n / 0x40 % 0x40), UInt8.ofNat (0x80 + n % 0x40)]

/-- The bytes of a text whose first code point stands at `position`. -/
def encodeFrom (position : Nat) : Text → Except EncodeFault Bytes
  | [] => .ok []
  | c :: rest =>
    if c.isSurrogate then
      .error ⟨position, ((c :: rest).takeWhile CodePoint.isSurrogate).length, c⟩
    else do return encodePoint c ++ (← encodeFrom (position + 1) rest)

/-- The bytes of a text. -/
def encode? (text : Text) : Except EncodeFault Bytes := encodeFrom 0 text

/-- A byte that continues a code point. -/
def isContinuation (b : UInt8) : Bool := 0x80 ≤ b.toNat && b.toNat < 0xC0

/-- The lower six bits of a continuation byte. -/
def payload (b : UInt8) : Nat := b.toNat - 0x80

/-- Whether `second` may follow the lead byte `lead` of three or four bytes: no longer form than
needed, no surrogate, nothing beyond the last code point. -/
def mayFollow (lead second : UInt8) : Bool :=
  isContinuation second &&
    (if lead = 0xE0 then 0xA0 ≤ second.toNat
     else if lead = 0xED then second.toNat < 0xA0
     else if lead = 0xF0 then 0x90 ≤ second.toNat
     else if lead = 0xF4 then second.toNat < 0x90
     else true)

/-- One code point from the front of `bytes`: the code point with the bytes that are left, or the
problem with the number of bytes at fault. -/
def decodePoint : Bytes → Except (DecodeProblem × Nat) (CodePoint × Bytes)
  | [] => .error (.endOfData, 0)
  | b :: rest =>
    let n := b.toNat
    if n < 0x80 then .ok (CodePoint.ofNat n, rest)
    else if n < 0xC2 then .error (.startByte, 1)
    else if n < 0xE0 then
      match rest with
      | [] => .error (.endOfData, 1)
      | c :: rest =>
        if isContinuation c then .ok (CodePoint.ofNat ((n - 0xC0) * 0x40 + payload c), rest)
        else .error (.continuation, 1)
    else if n < 0xF0 then
      match rest with
      | [] => .error (.endOfData, 1)
      | [c] => .error (if mayFollow b c then (.endOfData, 2) else (.continuation, 1))
      | c :: d :: rest =>
        if !mayFollow b c then .error (.continuation, 1)
        else if !isContinuation d then .error (.continuation, 2)
        else .ok (CodePoint.ofNat ((n - 0xE0) * 0x1000 + payload c * 0x40 + payload d), rest)
    else if n < 0xF5 then
      match rest with
      | [] => .error (.endOfData, 1)
      | [c] => .error (if mayFollow b c then (.endOfData, 2) else (.continuation, 1))
      | [c, d] =>
        .error (if !mayFollow b c then (.continuation, 1)
          else if isContinuation d then (.endOfData, 3) else (.continuation, 2))
      | c :: d :: e :: rest =>
        if !mayFollow b c then .error (.continuation, 1)
        else if !isContinuation d then .error (.continuation, 2)
        else if !isContinuation e then .error (.continuation, 3)
        else
          .ok (CodePoint.ofNat
            ((n - 0xF0) * 0x40000 + payload c * 0x1000 + payload d * 0x40 + payload e), rest)
    else .error (.startByte, 1)

/-- Decodes at most `fuel` code points; `position` bytes have been read before. A code point has taken
as many bytes as it is written with, since no longer form is accepted. -/
def decodeFrom : (fuel position : Nat) → Bytes → Except DecodeFault Text
  | _, _, [] => .ok []
  | 0, _, _ :: _ => .ok []
  | fuel + 1, position, b :: rest =>
    match decodePoint (b :: rest) with
    | .error (problem, count) => .error ⟨problem, position, count, b⟩
    | .ok (c, rest') => do
      return c :: (← decodeFrom fuel (position + (encodePoint c).length) rest')

/-- The text of some bytes: every code point takes at least one of them. -/
def decode? (bytes : Bytes) : Except DecodeFault Text := decodeFrom bytes.length 0 bytes

/-- The two hexadecimal digits of each byte. -/
def hexDump (bytes : Bytes) : Text := bytes.flatMap fun b => Text.hex 2 b.toNat

end Utf8

end CampaignDesk
