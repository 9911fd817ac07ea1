import ToolRelay.Text.Blank
import ToolRelay.Toml.Value

/-!
# TOML scalars

Texts in their four spellings, and the words that stand for truth values, integers, floats, dates
and times.
-/

namespace ToolRelay.Toml

/-- A blank within a line. -/
def isGap (c : Char) : Bool := c == ' ' || c == '\t'

/-- A character that may stand in a comment or in a text: no control but the tab. -/
def isShown (c : Char) : Bool := c == '\t' || (32 ≤ c.toNat && c.toNat ≠ 127)

/-- Split off a line break. -/
def lineEnd? : List Char → Option (List Char)
  | '\n' :: rest => some rest
  | '\r' :: '\n' :: rest => some rest
  | _ => none

/-! ## Texts -/

/-- The character that a letter after a backslash denotes. -/
def simpleEscape? (c : Char) : Option Char :=
  match c with
  | 'b' => some '\x08'
  | 't' => some '\t'
  | 'n' => some '\n'
  | 'f' => some '\x0c'
  | 'r' => some '\r'
  | '"' => some '"'
  | '\\' => some '\\'
  | _ => none

/-- The character with the code point that hexadecimal digits denote. -/
def codePoint? (digits : List Char) : Option Char := do
  let n ← digits.foldlM (fun n c => (Text.hexValue? c).map (16 * n + ·)) 0
  if n < 0xd800 ∨ (0xdfff < n ∧ n < 0x110000) then some (Char.ofNat n) else none

/-- What reading the inside of a text gives: its characters and what follows the closing quotes. -/
abbrev TextRead := Option (List Char × List Char)

/-- Put a character in front of what was read. -/
def TextRead.push (c : Char) (r : TextRead) : TextRead :=
  r.map fun r => (c :: r.1, r.2)

/-- Read the inside of a text in double quotes on one line. -/
def readBasic : List Char → TextRead
  | [] => none
  | '"' :: rest => some ([], rest)
  | '\\' :: 'u' :: a :: b :: c :: d :: rest => do
    let x ← codePoint? [a, b, c, d]
    TextRead.push x (readBasic rest)
  | '\\' :: 'U' :: a :: b :: c :: d :: e :: f :: g :: h :: rest => do
    let x ← codePoint? [a, b, c, d, e, f, g, h]
    TextRead.push x (readBasic rest)
  | '\\' :: e :: rest => do
    let x ← simpleEscape? e
    TextRead.push x (readBasic rest)
  | c :: rest => if isShown c && c != '\\' then TextRead.push c (readBasic rest) else none

/-- Read the inside of a text in single quotes on one line. -/
def readLiteral : List Char → TextRead
  | [] => none
  | c :: rest =>
    if c == '\x27' then some ([], rest)
    else if isShown c then TextRead.push c (readLiteral rest)
    else none

/-- A backslash that ends a line: only blanks follow it on the line. -/
def endsLine (rest : List Char) : Bool := (lineEnd? (rest.dropWhile isGap)).isSome

/-- Quotes that stand directly before the closing ones: at most two. -/
def innerQuotes (quote : Char) (rest : List Char) : List Char :=
  (rest.takeWhile (· == quote)).take 2

/-- Read the inside of a text in three double quotes. `skipping` holds after a backslash at the end
of a line, until something else than blanks and line breaks comes. -/
def readMultiBasic (skipping : Bool) : List Char → TextRead
  | [] => none
  | '"' :: '"' :: '"' :: rest =>
    let quotes := innerQuotes '"' rest
    some (quotes, rest.drop quotes.length)
  | '\\' :: 'u' :: a :: b :: c :: d :: rest => do
    let x ← codePoint? [a, b, c, d]
    TextRead.push x (readMultiBasic false rest)
  | '\\' :: 'U' :: a :: b :: c :: d :: e :: f :: g :: h :: rest => do
    let x ← codePoint? [a, b, c, d, e, f, g, h]
    TextRead.push x (readMultiBasic false rest)
  | '\\' :: e :: rest =>
    if endsLine (e :: rest) then readMultiBasic true (e :: rest)
    else do
      let x ← simpleEscape? e
      TextRead.push x (readMultiBasic false rest)
  | '\r' :: '\n' :: rest =>
    if skipping then readMultiBasic true rest else TextRead.push '\n' (readMultiBasic false rest)
  | c :: rest =>
    if skipping && (isGap c || c == '\n') then readMultiBasic true rest
    else if c == '\n' || (isShown c && c != '\\') then
      TextRead.push c (readMultiBasic false rest)
    else none

/-- Read the inside of a text in three single quotes. -/
def readMultiLiteral : List Char → TextRead
  | [] => none
  | '\x27' :: '\x27' :: '\x27' :: rest =>
    let quotes := innerQuotes '\x27' rest
    some (quotes, rest.drop quotes.length)
  | '\r' :: '\n' :: rest => TextRead.push '\n' (readMultiLiteral rest)
  | c :: rest =>
    if c == '\n' || isShown c then TextRead.push c (readMultiLiteral rest) else none

/-- Drop a line break directly after opening quotes. -/
def dropFirstBreak (rest : List Char) : List Char := (lineEnd? rest).getD rest

/-- Read a text in any spelling. -/
def readText? : List Char → Option (String × List Char)
  | '"' :: '"' :: '"' :: rest =>
    (readMultiBasic false (dropFirstBreak rest)).map fun r => (String.ofList r.1, r.2)
  | '\x27' :: '\x27' :: '\x27' :: rest =>
    (readMultiLiteral (dropFirstBreak rest)).map fun r => (String.ofList r.1, r.2)
  | '"' :: rest => (readBasic rest).map fun r => (String.ofList r.1, r.2)
  | '\x27' :: rest => (readLiteral rest).map fun r => (String.ofList r.1, r.2)
  | _ => none

/-! ## Words -/

/-- A character of a word that stands for a number, a date or a truth value. -/
def isWordChar (c : Char) : Bool :=
  c.isAlphanum || c == '+' || c == '-' || c == '_' || c == '.' || c == ':'

/-- Digits of a class with single underscores between them; the result is the digits alone. -/
def digitsOf? (isOne : Char → Bool) (afterDigit : Bool) : List Char → Option (List Char)
  | [] => if afterDigit then some [] else none
  | c :: rest =>
    if c == '_' then
      if afterDigit && rest.head?.any isOne then digitsOf? isOne false rest else none
    else if isOne c then (digitsOf? isOne true rest).map (c :: ·)
    else none

/-- The number that digits of a base denote. -/
def numberOf (base : Nat) (digits : List Char) : Nat :=
  digits.foldl (fun n c => base * n + (Text.hexValue? c).getD 0) 0

/-- A digit below eight. -/
def isOctal (c : Char) : Bool := '0' ≤ c && c ≤ '7'

/-- A digit below two. -/
def isBinary (c : Char) : Bool := c == '0' || c == '1'

/-- Split off a sign; the truth value tells a minus. -/
def splitSign : List Char → Bool × Bool × List Char
  | '+' :: rest => (true, false, rest)
  | '-' :: rest => (true, true, rest)
  | cs => (false, false, cs)

/-- Decimal digits without a leading zero. -/
def wholeDigits? (cs : List Char) : Option (List Char) := do
  let ds ← digitsOf? Text.isDigit false cs
  if 1 < ds.length ∧ ds.head? = some '0' then none else some ds

/-- The integer that a word denotes, when it fits a signed 64-bit word. -/
def integerOf? (cs : List Char) : Option Int := do
  let inBase := fun (base : Nat) (isOne : Char → Bool) (ds : List Char) => do
    let ds ← digitsOf? isOne false ds
    return (numberOf base ds : Int)
  let n ← match cs with
    | '0' :: 'x' :: ds => inBase 16 (fun c => (Text.hexValue? c).isSome) ds
    | '0' :: 'o' :: ds => inBase 8 isOctal ds
    | '0' :: 'b' :: ds => inBase 2 isBinary ds
    | cs => do
      let (_, negative, ds) := splitSign cs
      let ds ← wholeDigits? ds
      let m : Int := numberOf 10 ds
      pure (if negative then -m else m)
  if Int64.minValue.toInt ≤ n ∧ n ≤ Int64.maxValue.toInt then some n else none

/-- A word is a float: digits with a fraction, an exponent or both, or a special value. -/
def isFloat (cs : List Char) : Bool :=
  let (_, _, body) := splitSign cs
  if body == "inf".toList || body == "nan".toList then true
  else
    let isExponentMark := fun c : Char => c == 'e' || c == 'E'
    let mantissa := body.takeWhile fun c => !isExponentMark c
    let exponent := body.dropWhile fun c => !isExponentMark c
    let whole := mantissa.takeWhile (· != '.')
    let fraction := mantissa.dropWhile (· != '.')
    let fractionOk := match fraction with
      | [] => true
      | _ :: ds => (digitsOf? Text.isDigit false ds).isSome
    let exponentOk := match exponent with
      | [] => true
      | _ :: ds => (digitsOf? Text.isDigit false (splitSign ds).2.2).isSome
    (wholeDigits? whole).isSome && fractionOk && exponentOk &&
      (!fraction.isEmpty || !exponent.isEmpty)

/-! ## Dates and times -/

/-- The number of days of a month. -/
def daysIn (year month : Nat) : Nat :=
  if month = 2 then
    if (year % 4 = 0 ∧ year % 100 ≠ 0) ∨ year % 400 = 0 then 29 else 28
  else if [4, 6, 9, 11].contains month then 30 else 31

/-- A number of exactly so many digits at the front. -/
def fixedNumber? (count : Nat) (cs : List Char) : Option (Nat × List Char) :=
  let ds := cs.take count
  if ds.length = count ∧ ds.all Text.isDigit then some (Text.natOfDigits ds, cs.drop count)
  else none

/-- A given character at the front. -/
def expect? (c : Char) : List Char → Option (List Char)
  | c' :: rest => if c' = c then some rest else none
  | [] => none

/-- Split off a date. -/
def date? (cs : List Char) : Option (List Char) := do
  let (year, cs) ← fixedNumber? 4 cs
  let cs ← expect? '-' cs
  let (month, cs) ← fixedNumber? 2 cs
  let cs ← expect? '-' cs
  let (day, cs) ← fixedNumber? 2 cs
  if 1 ≤ month ∧ month ≤ 12 ∧ 1 ≤ day ∧ day ≤ daysIn year month then some cs else none

/-- Split off a time of day. -/
def time? (cs : List Char) : Option (List Char) := do
  let (hour, cs) ← fixedNumber? 2 cs
  let cs ← expect? ':' cs
  let (minute, cs) ← fixedNumber? 2 cs
  let cs ← expect? ':' cs
  let (second, cs) ← fixedNumber? 2 cs
  if 23 < hour ∨ 59 < minute ∨ 60 < second then none
  else match cs with
    | '.' :: rest =>
      if rest.head?.any Text.isDigit then some (rest.dropWhile Text.isDigit) else none
    | cs => some cs

/-- What follows a time: nothing, or an offset. -/
def isOffset (cs : List Char) : Bool :=
  match cs with
  | [] => true
  | ['Z'] | ['z'] => true
  | c :: rest =>
    (c == '+' || c == '-') && (match fixedNumber? 2 rest with
      | none => false
      | some (hour, rest) =>
        match (expect? ':' rest).bind (fixedNumber? 2) with
        | some (minute, []) => hour ≤ 23 && minute ≤ 59
        | _ => false)

/-- A word, perhaps with one blank in it, is a date, a time or both. -/
def isDateTime (cs : List Char) : Bool :=
  match date? cs with
  | none => time? cs == some []
  | some [] => true
  | some (c :: rest) =>
    (c == 'T' || c == 't' || c == ' ') && (match time? rest with
      | none => false
      | some rest => isOffset rest)

/-- The value that a word denotes. -/
def wordValue? (cs : List Char) : Option Toml :=
  if cs == "true".toList then some (.bool true)
  else if cs == "false".toList then some (.bool false)
  else if isDateTime cs then some (.dateTime (String.ofList cs))
  else match integerOf? cs with
    | some n => some (.int n)
    | none => if isFloat cs then some (.float (String.ofList cs)) else none

/-- Read a word. A blank may stand between a date and a time. -/
def readWord (cs : List Char) : Option (Toml × List Char) := do
  let word := cs.takeWhile isWordChar
  let rest := cs.dropWhile isWordChar
  let (word, rest) := match date? word, rest with
    | some [], ' ' :: d :: more =>
      if Text.isDigit d then
        (word ++ ' ' :: (d :: more).takeWhile isWordChar, (d :: more).dropWhile isWordChar)
      else (word, rest)
    | _, _ => (word, rest)
  let v ← wordValue? word
  return (v, rest)

end ToolRelay.Toml
