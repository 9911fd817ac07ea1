import ToolRelay.Text.Blank
import ToolRelay.Toml.Value

/-!
# TOML text

A text is written in the plainest spelling that holds it without escapes: between double quotes,
then between single quotes, then between three double or three single quotes; when each of them
needs an escape it stands between one double quote, or three if it has a line break. Tables of a
sequence follow each other with an empty line between them.
-/

namespace ToolRelay.Toml

/-- A control character that no spelling holds without an escape. -/
def needsEscape (c : Char) : Bool :=
  (c.toNat < 32 && c != '\t' && c != '\n') || c.toNat == 127

/-- The length of the longest run of a character. -/
def longestRun (c : Char) : List Char → Nat → Nat
  | [], run => run
  | x :: rest, run =>
    if x = c then longestRun c rest (run + 1) else max run (longestRun c rest 0)

/-- The written form of a character that a text in double quotes does not hold as it is. -/
def escaped (c : Char) : List Char :=
  if c = '\x08' then ['\\', 'b']
  else if c = '\t' then ['\\', 't']
  else if c = '\n' then ['\\', 'n']
  else if c = '\x0c' then ['\\', 'f']
  else if c = '\r' then ['\\', 'r']
  else if c = '"' then ['\\', '"']
  else if c = '\\' then ['\\', '\\']
  else if c.toNat < 32 || c.toNat == 127 then
    ['\\', 'u', '0', '0', (Text.hexDigit (c.toNat / 16)).toUpper,
      (Text.hexDigit (c.toNat % 16)).toUpper]
  else [c]

/-- Characters between single double quotes. -/
def basicChars (cs : List Char) : List Char := cs.flatMap escaped

/-- Characters between three double quotes: line breaks stay, and so do up to two quotes in a row,
counted since the last escape. -/
def multiBasicChars : Nat → List Char → List Char
  | _, [] => []
  | quotes, c :: rest =>
    if c = '"' then
      if 2 ≤ quotes then '\\' :: '"' :: multiBasicChars 0 rest
      else '"' :: multiBasicChars (quotes + 1) rest
    else if c = '\n' then '\n' :: multiBasicChars 0 rest
    else escaped c ++ multiBasicChars 0 rest

/-- The written form of a text. -/
def textChars (s : String) : List Char :=
  let cs := s.toList
  let mustEscape := cs.any needsEscape
  let hasBackslash := cs.contains '\\'
  let hasBreak := cs.contains '\n'
  let doubles := longestRun '"' cs 0
  let singles := longestRun '\x27' cs 0
  let firstBreak := if hasBreak then ['\n'] else []
  let three := fun q : Char => [q, q, q]
  let basic := '"' :: (basicChars cs ++ ['"'])
  let multiBasic := three '"' ++ firstBreak ++ multiBasicChars 0 cs ++ three '"'
  if !mustEscape && !hasBackslash && doubles == 0 && !hasBreak then basic
  else if !mustEscape && singles == 0 && !hasBreak then '\x27' :: (cs ++ ['\x27'])
  else if !mustEscape && !hasBackslash && doubles ≤ 2 then multiBasic
  else if !mustEscape && singles ≤ 2 then three '\x27' ++ firstBreak ++ cs ++ three '\x27'
  else if hasBreak then multiBasic
  else basic

/-- The written form of a scalar. -/
def scalarChars : Toml → List Char
  | .str s => textChars s
  | .int n => (toString n).toList
  | .bool b => (if b then "true" else "false").toList
  | .float s | .dateTime s => s.toList
  | .arr _ | .table _ => []

/-- A line that gives a key a scalar. -/
def assignmentChars (entry : String × Toml) : List Char :=
  entry.1.toList ++ ' ' :: '=' :: ' ' :: (scalarChars entry.2 ++ ['\n'])

/-- One table of a sequence. -/
def sectionChars (key : String) (entries : List (String × Toml)) : List Char :=
  '[' :: '[' :: (key.toList ++ ']' :: ']' :: '\n' :: entries.flatMap assignmentChars)

/-- A document that consists of one sequence of tables with scalars. -/
def renderSections (key : String) (sections : List (List (String × Toml))) : String :=
  match sections with
  | [] => key ++ " = []\n"
  | sections => String.ofList (['\n'].intercalate (sections.map (sectionChars key)))

end ToolRelay.Toml
