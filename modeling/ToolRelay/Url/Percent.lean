import ToolRelay.Text.Blank
import ToolRelay.Text.Utf8

/-!
# Percent encoding

Bytes written as a percent sign and two hexadecimal digits. Which ASCII characters are written so
depends on the part of the URL; characters beyond ASCII always are.
-/

namespace ToolRelay.Url

/-- A percent sign and the two upper-case digits of a byte. -/
def percentByte (b : UInt8) : List Char :=
  let digit := fun n : Nat => (Text.hexDigit n).toUpper
  ['%', digit (b.toNat / 16), digit (b.toNat % 16)]

/-- Encode the characters of a class, and all beyond ASCII. -/
def percentEncode (encoded : Char → Bool) (cs : List Char) : List Char :=
  cs.flatMap fun c =>
    if c.toNat < 128 && !encoded c then [c] else (Text.utf8Char c).flatMap percentByte

/-- Decode every well-formed percent triple. -/
def percentDecode : List Char → List UInt8
  | [] => []
  | '%' :: a :: b :: rest =>
    match Text.hexValue? a, Text.hexValue? b with
    | some x, some y => UInt8.ofNat (16 * x + y) :: percentDecode rest
    | _, _ => 0x25 :: percentDecode (a :: b :: rest)
  | c :: rest => Text.utf8Char c ++ percentDecode rest

/-- The ASCII controls. -/
def isControl (c : Char) : Bool := c.toNat < 32 || c.toNat == 127

/-- What is encoded in a fragment. -/
def inFragment (c : Char) : Bool :=
  isControl c || [' ', '"', '<', '>', '`'].contains c

/-- What is encoded in a path. -/
def inPath (c : Char) : Bool :=
  inFragment c || ['#', '?', '\x7b', '\x7d'].contains c

/-- What is encoded in a user name or password. -/
def inUserInfo (c : Char) : Bool :=
  inPath c || ['/', ':', ';', '=', '@', '[', '\\', ']', '^', '|'].contains c

/-- What is encoded in a query. -/
def inQuery (c : Char) : Bool :=
  isControl c || [' ', '"', '#', '<', '>'].contains c

/-- What is encoded in the query of a special scheme. -/
def inSpecialQuery (c : Char) : Bool :=
  inQuery c || c == '\x27'

end ToolRelay.Url
