import ToolRelay.Json.Value
import ToolRelay.Text.Blank

/-!
# JSON text

Two written forms of a value: compact, without any blank, and indented by two spaces a level.
Members are written in the order of the list, so that a record whose members are not ordered by
key keeps the order in which it lists them.

Every writer takes the text that follows, so that writing is linear in the size of the value.
-/

namespace ToolRelay.Json

/-- Floats are positional from `1e-5` up to below `1e16`, and a positive exponent has a plus. -/
def floatLayout : Decimal.Layout := ⟨-5, 16, "+"⟩

/-- The text of a float. -/
def floatText (x : Double) : String :=
  let body := floatLayout.write (Decimal.shortest x)
  if x.isNegative then "-" ++ body else body

/-- The written form of one character inside quotes. -/
def escapeChar (c : Char) : List Char :=
  if c = '"' then ['\\', '"']
  else if c = '\\' then ['\\', '\\']
  else if c = '\n' then ['\\', 'n']
  else if c = '\r' then ['\\', 'r']
  else if c = '\t' then ['\\', 't']
  else if c = '\x08' then ['\\', 'b']
  else if c = '\x0c' then ['\\', 'f']
  else if c.toNat < 32 then
    ['\\', 'u', '0', '0', Text.hexDigit (c.toNat / 16), Text.hexDigit (c.toNat % 16)]
  else [c]

/-- The characters of a text between quotes, then what follows. -/
def writeString (s : String) (rest : List Char) : List Char :=
  '"' :: (s.toList.flatMap escapeChar ++ '"' :: rest)

/-- Decimal digits of an integer after its sign. -/
def intChars (n : Int) : List Char :=
  if n < 0 then '-' :: Decimal.digitChars n.natAbs else Decimal.digitChars n.natAbs

mutual

/-- The compact form of a value, then what follows. -/
def write : Json → List Char → List Char
  | .null, rest => "null".toList ++ rest
  | .bool true, rest => "true".toList ++ rest
  | .bool false, rest => "false".toList ++ rest
  | .int n, rest => intChars n ++ rest
  | .float x, rest => (floatText x).toList ++ rest
  | .str s, rest => writeString s rest
  | .arr items, rest => '[' :: writeItems items (']' :: rest)
  | .obj members, rest => '\x7b' :: writeMembers members ('\x7d' :: rest)

/-- Items with commas between them, then what follows. -/
def writeItems : List Json → List Char → List Char
  | [], rest => rest
  | [v], rest => write v rest
  | v :: w :: items, rest => write v (',' :: writeItems (w :: items) rest)

/-- Members with commas between them, then what follows. -/
def writeMembers : List (String × Json) → List Char → List Char
  | [], rest => rest
  | [(k, v)], rest => writeString k (':' :: write v rest)
  | (k, v) :: m :: members, rest =>
    writeString k (':' :: write v (',' :: writeMembers (m :: members) rest))

end

/-- The compact text of a value. -/
def render (v : Json) : String := String.ofList (v.write [])

/-- A line break and the indentation of a level. -/
def lineBreak (level : Nat) (rest : List Char) : List Char :=
  '\n' :: (List.replicate (2 * level) ' ' ++ rest)

mutual

/-- The indented form of a value at a level, then what follows. -/
def writeIndented (level : Nat) : Json → List Char → List Char
  | .arr [], rest => '[' :: ']' :: rest
  | .arr (v :: items), rest =>
    '[' :: writeIndentedItems (level + 1) (v :: items) (lineBreak level (']' :: rest))
  | .obj [], rest => '\x7b' :: '\x7d' :: rest
  | .obj (m :: members), rest =>
    '\x7b' :: writeIndentedMembers (level + 1) (m :: members) (lineBreak level ('\x7d' :: rest))
  | .null, rest => write .null rest
  | .bool b, rest => write (.bool b) rest
  | .int n, rest => write (.int n) rest
  | .float x, rest => write (.float x) rest
  | .str s, rest => write (.str s) rest

/-- Items on lines of their own, then what follows. -/
def writeIndentedItems (level : Nat) : List Json → List Char → List Char
  | [], rest => rest
  | [v], rest => lineBreak level (writeIndented level v rest)
  | v :: w :: items, rest =>
    lineBreak level (writeIndented level v (',' :: writeIndentedItems level (w :: items) rest))

/-- Members on lines of their own, then what follows. -/
def writeIndentedMembers (level : Nat) : List (String × Json) → List Char → List Char
  | [], rest => rest
  | [(k, v)], rest =>
    lineBreak level (writeString k (':' :: ' ' :: writeIndented level v rest))
  | (k, v) :: m :: members, rest =>
    lineBreak level (writeString k (':' :: ' ' ::
      writeIndented level v (',' :: writeIndentedMembers level (m :: members) rest)))

end

/-- The indented text of a value. -/
def renderIndented (v : Json) : String := String.ofList (v.writeIndented 0 [])

end ToolRelay.Json
