import ToolRelay.Text.Blank
import ToolRelay.Text.Hidden

/-!
# Quoted text

Text between double quotes for a reader's eyes: quotes, backslashes and characters that show
nothing of their own are escaped, all other characters stand for themselves.
-/

namespace ToolRelay.Text

/-- Hexadecimal digits of a number, in lower case and without leading zeros. -/
def hexChars (n : Nat) : List Char := Nat.toDigits 16 n

/-- The quoted form of one character. -/
def quoteChar (c : Char) : List Char :=
  if c = '"' then ['\\', '"']
  else if c = '\\' then ['\\', '\\']
  else if c = '\n' then ['\\', 'n']
  else if c = '\r' then ['\\', 'r']
  else if c = '\t' then ['\\', 't']
  else if c = '\x00' then ['\\', '0']
  else if isHidden c then '\\' :: 'u' :: '\x7b' :: (hexChars c.toNat ++ ['\x7d'])
  else [c]

/-- A text between quotes. -/
def quoted (s : String) : String :=
  String.ofList ('"' :: (s.toList.flatMap quoteChar ++ ['"']))

/-- Texts between brackets, each quoted, with commas between them. -/
def quotedList (ss : List String) : String :=
  "[" ++ ", ".intercalate (ss.map quoted) ++ "]"

end ToolRelay.Text
