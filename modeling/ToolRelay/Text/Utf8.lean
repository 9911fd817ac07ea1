/-!
# UTF-8

Encoding of characters as bytes, the longest part of a text that fits a number of bytes, and
decoding of arbitrary bytes. Decoding replaces each maximal run that starts like a character but
does not become one by `U+FFFD`.
-/

namespace ToolRelay.Text

/-- The bytes of a character. -/
def utf8Char (c : Char) : List UInt8 := String.utf8EncodeChar c

/-- The bytes of a text. -/
def utf8Bytes (cs : List Char) : List UInt8 := cs.flatMap utf8Char

/-- The longest front part with at most `limit` bytes. -/
def takeBytes (limit : Nat) : List Char → List Char
  | [] => []
  | c :: rest =>
    if c.utf8Size ≤ limit then c :: takeBytes (limit - c.utf8Size) rest else []

/-- The character that stands for bytes that are no character. -/
def replacement : Char := '\ufffd'

/-- A byte that continues a character. -/
def isTail (b : UInt8) : Bool := b &&& 0xc0 == 0x80

/-- What the first byte of a character asks of the next: how many bytes follow, the range of the
one directly after it, and the bits that the first byte contributes. -/
structure Lead where
  /-- The number of bytes that follow. -/
  more : Nat
  /-- The least next byte. -/
  low : UInt8
  /-- The greatest next byte. -/
  high : UInt8
  /-- The leading bits of the code point. -/
  bits : Nat

/-- What a byte asks for when it starts a character of several bytes. -/
def Lead.of? (b : UInt8) : Option Lead :=
  if 0xc2 ≤ b && b ≤ 0xdf then some ⟨1, 0x80, 0xbf, b.toNat - 0xc0⟩
  else if b == 0xe0 then some ⟨2, 0xa0, 0xbf, 0⟩
  else if b == 0xed then some ⟨2, 0x80, 0x9f, 0xd⟩
  else if 0xe1 ≤ b && b ≤ 0xef then some ⟨2, 0x80, 0xbf, b.toNat - 0xe0⟩
  else if b == 0xf0 then some ⟨3, 0x90, 0xbf, 0⟩
  else if 0xf1 ≤ b && b ≤ 0xf3 then some ⟨3, 0x80, 0xbf, b.toNat - 0xf0⟩
  else if b == 0xf4 then some ⟨3, 0x80, 0x8f, 4⟩
  else none

/-- Where a decoder stands: between characters, or inside one. -/
inductive DecoderState where
  /-- Between characters. -/
  | start
  /-- Inside a character: what the next byte has to be, and the bits so far. -/
  | inside (more : Nat) (low high : UInt8) (bits : Nat)

/-- The step for a byte between characters. -/
def decodeStart (b : UInt8) : List (Option Char) × DecoderState :=
  if b < 0x80 then ([some (Char.ofNat b.toNat)], .start)
  else match Lead.of? b with
    | some l => ([], .inside l.more l.low l.high l.bits)
    | none => ([none], .start)

/-- Read one byte. The result lists the characters that it completes; `none` stands for bytes that
are no character. -/
def decodeByte (s : DecoderState) (b : UInt8) : List (Option Char) × DecoderState :=
  match s with
  | .start => decodeStart b
  | .inside more low high bits =>
    if low ≤ b && b ≤ high then
      let bits := bits * 64 + (b.toNat - 0x80)
      if more = 1 then ([some (Char.ofNat bits)], .start)
      else ([], .inside (more - 1) 0x80 0xbf bits)
    else
      let (out, s) := decodeStart b
      (none :: out, s)

/-- Read bytes from a state. -/
def decodeBytes (s : DecoderState) : List UInt8 → List (Option Char) × DecoderState
  | [] => ([], s)
  | b :: rest =>
    let (out, s) := decodeByte s b
    let (out', s) := decodeBytes s rest
    (out ++ out', s)

/-- Decode bytes; a run that is no character becomes the replacement character. -/
def decodeLossy (bytes : List UInt8) : List Char :=
  let (out, s) := decodeBytes .start bytes
  let out := match s with
    | .start => out
    | .inside .. => out ++ [none]
  out.map (·.getD replacement)

/-- Decode bytes that are UTF-8 throughout. -/
def decodeStrict? (bytes : List UInt8) : Option (List Char) :=
  match decodeBytes .start bytes with
  | (out, .start) => out.mapM id
  | (_, .inside ..) => none

end ToolRelay.Text
