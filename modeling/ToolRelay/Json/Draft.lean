import ToolRelay.Json.Value
import ToolRelay.Text.Blank

/-!
# Drafts

A draft is JSON text as far as it could be read: members in the order written, repeated keys kept,
and a mark at the place where the text stops being JSON. Two faults do not stop the reading,
because a value that nobody looks at may have them: a number beyond the range of floats, and an
escape that is half of a surrogate pair.

`Draft.toJson?` accepts a draft without any fault and at most 127 levels deep; `Json.read?` is the
reader of whole texts that it gives.
-/

namespace ToolRelay.Json

/-- JSON text as far as it could be read. -/
inductive Draft where
  /-- The value `null`. -/
  | null
  /-- A truth value. -/
  | bool (b : Bool)
  /-- A number that is kept as an integer. -/
  | int (n : Int)
  /-- A number that is kept as a float. -/
  | float (x : Double)
  /-- A number beyond the range of floats. -/
  | hugeNumber
  /-- A text. -/
  | str (s : String)
  /-- A text with an escape that is half of a surrogate pair. -/
  | halfPair
  /-- Items, and whether the closing bracket was found after the last. -/
  | arr (items : List Draft) (closed : Bool)
  /-- Members, and whether the closing brace was found after the last. A key that holds half of a
  surrogate pair has no text. -/
  | obj (members : List (Option String × Draft)) (closed : Bool)
  /-- The place where the text stops being JSON. -/
  | broken
  deriving Repr, Inhabited

/-- The blanks of JSON text. -/
def isJsonBlank (c : Char) : Bool :=
  c = ' ' || c = '\n' || c = '\t' || c = '\r'

/-- Drop blanks. -/
def skipBlanks (cs : List Char) : List Char := cs.dropWhile isJsonBlank

/-! ## Texts -/

/-- The number that four hexadecimal digits denote. -/
def hexQuad? (a b c d : Char) : Option Nat := do
  let a ← Text.hexValue? a
  let b ← Text.hexValue? b
  let c ← Text.hexValue? c
  let d ← Text.hexValue? d
  return ((a * 16 + b) * 16 + c) * 16 + d

/-- The first half of a surrogate pair. -/
def isHighSurrogate (n : Nat) : Bool := 0xd800 ≤ n && n ≤ 0xdbff

/-- The second half of a surrogate pair. -/
def isLowSurrogate (n : Nat) : Bool := 0xdc00 ≤ n && n ≤ 0xdfff

/-- The character that a surrogate pair denotes. -/
def pairedChar (high low : Nat) : Char :=
  Char.ofNat ((high - 0xd800) * 0x400 + (low - 0xdc00) + 0x10000)

/-- The character that a letter after a backslash denotes. -/
def simpleEscape? (c : Char) : Option Char :=
  match c with
  | '"' => some '"'
  | '\\' => some '\\'
  | '/' => some '/'
  | 'b' => some '\x08'
  | 'f' => some '\x0c'
  | 'n' => some '\n'
  | 'r' => some '\r'
  | 't' => some '\t'
  | _ => none

/-- What reading the inside of a text gives: nothing when the text is broken off; else the
characters, unless half of a surrogate pair occurred, and what follows the closing quote. -/
abbrev StringRead := Option (Option (List Char) × List Char)

/-- Put a character in front of what was read. -/
def StringRead.push (c : Char) (r : StringRead) : StringRead :=
  r.map fun r => (r.1.map (c :: ·), r.2)

/-- Half of a surrogate pair stands in front of what was read. -/
def StringRead.spoil (r : StringRead) : StringRead :=
  r.map fun r => (none, r.2)

/-- Read the inside of a text up to its closing quote. `high` is the first half of a surrogate
pair that was just read. -/
def readString (high : Option Nat) : List Char → StringRead
  | [] => none
  | '"' :: r => some (if high.isSome then none else some [], r)
  | '\\' :: 'u' :: a :: b :: c :: d :: r =>
    match hexQuad? a b c d, high with
    | none, _ => none
    | some n, none =>
      if isHighSurrogate n then readString (some n) r
      else if isLowSurrogate n then (readString none r).spoil
      else (readString none r).push (Char.ofNat n)
    | some n, some h =>
      if isHighSurrogate n then (readString (some n) r).spoil
      else if isLowSurrogate n then (readString none r).push (pairedChar h n)
      else (readString none r).spoil
  | '\\' :: e :: r =>
    match simpleEscape? e with
    | none => none
    | some c =>
      if high.isSome then (readString none r).spoil else (readString none r).push c
  | c :: r =>
    if c.toNat < 32 ∨ c = '\\' then none
    else if high.isSome then (readString none r).spoil
    else (readString none r).push c

/-! ## Numbers -/

/-- Gather digits into a number as long as it fits an unsigned 64-bit word; the rest is the digits
that were left. -/
def gatherDigits (n : Nat) : List Char → Nat × List Char
  | [] => (n, [])
  | c :: r =>
    let n' := 10 * n + Text.digitValue c
    if n' < UInt64.size then gatherDigits n' r else (n, c :: r)

/-- The parts of a number after its sign. -/
structure NumberText where
  /-- The digits before the point. -/
  whole : List Char
  /-- The digits after the point, if there is one. -/
  fraction : Option (List Char)
  /-- The power of ten that is written after an `e`, if there is one. -/
  exponent : Option Int

/-- The float that the parts denote, when there is one: the digits that fit a word, scaled. -/
def NumberText.toDouble? (t : NumberText) (negative : Bool) : Option Double :=
  let (n, left) := gatherDigits 0 t.whole
  let fraction := t.fraction.getD []
  let (n, left') := gatherDigits n fraction
  let scale : Int := (left.length : Int) - ((fraction.length - left'.length : Nat) : Int)
  Double.ofScaled? negative (UInt64.ofNat n) (scale + t.exponent.getD 0)

/-- The draft that the parts denote. A number without point and exponent is an integer when it
fits a word, except minus zero. -/
def NumberText.toDraft (t : NumberText) (negative : Bool) : Draft :=
  let n := Text.natOfDigits t.whole
  let asFloat := match t.toDouble? negative with
    | some x => .float x
    | none => .hugeNumber
  if t.fraction.isSome || t.exponent.isSome then asFloat
  else if negative then
    if n ≠ 0 ∧ Int64.minValue.toInt ≤ -(n : Int) then .int (-(n : Int)) else asFloat
  else if n < UInt64.size then .int n
  else asFloat

/-- Read the digits before the point: a zero stands alone. -/
def readWhole : List Char → Option (List Char × List Char)
  | '0' :: r => if r.head?.any Text.isDigit then none else some (['0'], r)
  | cs =>
    let ds := cs.takeWhile Text.isDigit
    if ds.isEmpty then none else some (ds, cs.dropWhile Text.isDigit)

/-- Read a point and the digits after it, if there is a point. -/
def readFraction : List Char → Option (Option (List Char) × List Char)
  | '.' :: r =>
    let ds := r.takeWhile Text.isDigit
    if ds.isEmpty then none else some (some ds, r.dropWhile Text.isDigit)
  | cs => some (none, cs)

/-- Read a signed or unsigned run of digits after an `e`. -/
def readPower (cs : List Char) : Option (Option Int × List Char) :=
  let (negative, r) := match cs with
    | '+' :: r => (false, r)
    | '-' :: r => (true, r)
    | r => (false, r)
  let ds := r.takeWhile Text.isDigit
  if ds.isEmpty then none
  else
    let n : Int := Text.natOfDigits ds
    some (some (if negative then -n else n), r.dropWhile Text.isDigit)

/-- Read an exponent, if there is one. -/
def readExponent : List Char → Option (Option Int × List Char)
  | 'e' :: r => readPower r
  | 'E' :: r => readPower r
  | cs => some (none, cs)

/-- Read a number after its sign. -/
def readNumber (negative : Bool) (cs : List Char) : Draft × Option (List Char) :=
  match readWhole cs with
  | none => (.broken, none)
  | some (whole, cs) =>
    match readFraction cs with
    | none => (.broken, none)
    | some (fraction, cs) =>
      match readExponent cs with
      | none => (.broken, none)
      | some (exponent, cs) =>
        ((NumberText.mk whole fraction exponent).toDraft negative, some cs)

/-! ## Values -/

/-- Read the rest of a word that stands for a value. -/
def readWord (word : List Char) (d : Draft) (cs : List Char) : Draft × Option (List Char) :=
  if word.isPrefixOf cs then (d, some (cs.drop word.length)) else (.broken, none)

mutual

/-- Read a value; the second part is what follows, unless the text is broken. -/
def readValue : Nat → List Char → Draft × Option (List Char)
  | 0, _ => (.broken, none)
  | fuel + 1, cs =>
    match skipBlanks cs with
    | 'n' :: r => readWord "ull".toList .null r
    | 't' :: r => readWord "rue".toList (.bool true) r
    | 'f' :: r => readWord "alse".toList (.bool false) r
    | '-' :: r => readNumber true r
    | '"' :: r =>
      match readString none r with
      | none => (.broken, none)
      | some (none, r) => (.halfPair, some r)
      | some (some s, r) => (.str (String.ofList s), some r)
    | '[' :: r =>
      match skipBlanks r with
      | ']' :: r => (.arr [] true, some r)
      | r =>
        let (items, rest) := readItems fuel r
        (.arr items rest.isSome, rest)
    | '\x7b' :: r =>
      match skipBlanks r with
      | '\x7d' :: r => (.obj [] true, some r)
      | r =>
        let (members, rest) := readMembers fuel r
        (.obj members rest.isSome, rest)
    | c :: r => if Text.isDigit c then readNumber false (c :: r) else (.broken, none)
    | [] => (.broken, none)

/-- Read items up to the closing bracket. -/
def readItems : Nat → List Char → List Draft × Option (List Char)
  | 0, _ => ([], none)
  | fuel + 1, cs =>
    match readValue fuel cs with
    | (d, none) => ([d], none)
    | (d, some r) =>
      match skipBlanks r with
      | ',' :: r =>
        let (items, rest) := readItems fuel r
        (d :: items, rest)
      | ']' :: r => ([d], some r)
      | _ => ([d], none)

/-- Read members up to the closing brace. -/
def readMembers : Nat → List Char → List (Option String × Draft) × Option (List Char)
  | 0, _ => ([], none)
  | fuel + 1, cs =>
    match skipBlanks cs with
    | '"' :: r =>
      match readString none r with
      | none => ([], none)
      | some (key, r) =>
        let key := key.map String.ofList
        match skipBlanks r with
        | ':' :: r =>
          match readValue fuel r with
          | (d, none) => ([(key, d)], none)
          | (d, some r) =>
            match skipBlanks r with
            | ',' :: r =>
              let (members, rest) := readMembers fuel r
              ((key, d) :: members, rest)
            | '\x7d' :: r => ([(key, d)], some r)
            | _ => ([(key, d)], none)
        | _ => ([(key, .broken)], none)
    | _ => ([], none)

end

/-- Read a text. The second part tells whether nothing but blanks follows the value. -/
def Draft.read (text : String) : Draft × Bool :=
  let cs := text.toList
  match readValue (2 * cs.length + 2) cs with
  | (d, some r) => (d, (skipBlanks r).isEmpty)
  | (d, none) => (d, false)

/-! ## From drafts to values -/

mutual

/-- The value of a draft without faults that is at most `levels` deep. -/
def Draft.toJson? (levels : Nat) : Draft → Option Json
  | .null => some .null
  | .bool b => some (.bool b)
  | .int n => some (.int n)
  | .float x => some (.float x)
  | .str s => some (.str s)
  | .hugeNumber | .halfPair | .broken => none
  | .arr items closed =>
    if levels = 0 ∨ !closed then none else (Draft.itemsToJson? (levels - 1) items).map .arr
  | .obj members closed =>
    if levels = 0 ∨ !closed then none
    else (Draft.membersToJson? (levels - 1) members).map Json.ofMembers

/-- The values of items. -/
def Draft.itemsToJson? (levels : Nat) : List Draft → Option (List Json)
  | [] => some []
  | d :: rest => do
    let v ← d.toJson? levels
    let vs ← Draft.itemsToJson? levels rest
    return v :: vs

/-- The values of members. -/
def Draft.membersToJson? (levels : Nat) :
    List (Option String × Draft) → Option (List (String × Json))
  | [] => some []
  | (k, d) :: rest => do
    let k ← k
    let v ← d.toJson? levels
    let vs ← Draft.membersToJson? levels rest
    return (k, v) :: vs

end

mutual

/-- The draft that a value is read from. -/
def Draft.ofJson : Json → Draft
  | .null => .null
  | .bool b => .bool b
  | .int n => .int n
  | .float x => .float x
  | .str s => .str s
  | .arr items => .arr (Draft.ofItems items) true
  | .obj members => .obj (Draft.ofMembers members) true

/-- The drafts of items. -/
def Draft.ofItems : List Json → List Draft
  | [] => []
  | v :: rest => Draft.ofJson v :: Draft.ofItems rest

/-- The drafts of members. -/
def Draft.ofMembers : List (String × Json) → List (Option String × Draft)
  | [] => []
  | (k, v) :: rest => (some k, Draft.ofJson v) :: Draft.ofMembers rest

end

mutual

/-- The draft holds no place where the text stops being JSON. -/
def Draft.isWhole : Draft → Bool
  | .broken => false
  | .arr items closed => closed && Draft.itemsWhole items
  | .obj members closed => closed && Draft.membersWhole members
  | _ => true

/-- Every item is whole. -/
def Draft.itemsWhole : List Draft → Bool
  | [] => true
  | d :: rest => d.isWhole && Draft.itemsWhole rest

/-- Every member is whole. -/
def Draft.membersWhole : List (Option String × Draft) → Bool
  | [] => true
  | (_, d) :: rest => d.isWhole && Draft.membersWhole rest

end

/-- How many levels of nesting a text may have. -/
def maxLevels : Nat := 127

/-- The value that a whole text denotes. -/
def read? (text : String) : Option Json :=
  match Draft.read text with
  | (d, true) => d.toJson? maxLevels
  | (_, false) => none

end ToolRelay.Json
