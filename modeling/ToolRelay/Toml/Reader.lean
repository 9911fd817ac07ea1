import ToolRelay.Toml.Scalar

/-!
# Reading TOML

A document is a sequence of lines: headers that begin a table, and assignments of a value to a key.
`Toml.read?` gives the table of the whole document, or nothing when a rule of TOML is broken.
-/

namespace ToolRelay.Toml

/-- Drop blanks within a line. -/
def skipGaps (cs : List Char) : List Char := cs.dropWhile isGap

/-- Drop a comment, up to the line break; a control character in it is a fault. -/
def skipComment? : List Char → Option (List Char)
  | '#' :: rest =>
    let after := rest.dropWhile isShown
    match after with
    | [] => some []
    | after => if (lineEnd? after).isSome then some after else none
  | cs => some cs

/-- Drop blanks, comments and line breaks. -/
def skipLines : Nat → List Char → Option (List Char)
  | 0, cs => some cs
  | fuel + 1, cs => do
    let cs ← skipComment? (skipGaps cs)
    match lineEnd? cs with
    | some rest => skipLines fuel rest
    | none => some cs

/-- A character of a key without quotes. -/
def isKeyChar (c : Char) : Bool := c.isAlphanum || c == '-' || c == '_'

/-- Read one name of a key. -/
def readName? (cs : List Char) : Option (String × List Char) :=
  match cs with
  | '"' :: rest => (readBasic rest).map fun r => (String.ofList r.1, r.2)
  | '\x27' :: rest => (readLiteral rest).map fun r => (String.ofList r.1, r.2)
  | cs =>
    let name := cs.takeWhile isKeyChar
    if name.isEmpty then none else some (String.ofList name, cs.dropWhile isKeyChar)

/-- Read a key: names with dots between them. -/
def readKey? : Nat → List Char → Option (List String × List Char)
  | 0, _ => none
  | fuel + 1, cs => do
    let (name, cs) ← readName? (skipGaps cs)
    match skipGaps cs with
    | '.' :: rest =>
      let (names, cs) ← readKey? fuel rest
      return (name :: names, cs)
    | cs => return ([name], cs)

mutual

/-- Read a value at a level of nesting. -/
def readValue? : Nat → List Char → Option (Toml × List Char)
  | 0, _ => none
  | fuel + 1, cs =>
    match cs with
    | '"' :: _ => (readText? cs).map fun r => (.str r.1, r.2)
    | '\x27' :: _ => (readText? cs).map fun r => (.str r.1, r.2)
    | '[' :: rest => (readItems? fuel rest).map fun r => (.arr r.1, r.2)
    | '\x7b' :: rest => do
      match skipGaps rest with
      | '\x7d' :: rest => return (.table [], rest)
      | rest =>
        let (entries, rest) ← readPairs? fuel [] rest
        return (.table (Item.entriesToToml entries), rest)
    | cs => readWord cs

/-- Read the items of a sequence, up to the closing bracket. -/
def readItems? : Nat → List Char → Option (List Toml × List Char)
  | 0, _ => none
  | fuel + 1, cs => do
    match ← skipLines cs.length cs with
    | ']' :: rest => return ([], rest)
    | cs =>
      let (v, cs) ← readValue? fuel cs
      match ← skipLines cs.length cs with
      | ',' :: rest =>
        let (vs, rest) ← readItems? fuel rest
        return (v :: vs, rest)
      | ']' :: rest => return ([v], rest)
      | _ => none

/-- Read the pairs of a table on one line, up to the closing brace. -/
def readPairs? : Nat → Entries → List Char → Option (Entries × List Char)
  | 0, _, _ => none
  | fuel + 1, entries, cs => do
    let (path, cs) ← readKey? cs.length cs
    let cs ← expect? '=' cs
    let (v, cs) ← readValue? fuel (skipGaps cs)
    let entries ← assign path v entries
    match skipGaps cs with
    | ',' :: rest => readPairs? fuel entries rest
    | '\x7d' :: rest => return (entries, rest)
    | _ => none

end

/-- The end of a line: blanks, perhaps a comment, and a line break or the end of the text. -/
def finishLine? (cs : List Char) : Option (List Char) := do
  match ← skipComment? (skipGaps cs) with
  | [] => some []
  | cs => lineEnd? cs

/-- Where a reader of lines stands. -/
structure Progress where
  /-- The tables so far. -/
  root : Entries
  /-- The path of the table that the last header began. -/
  header : List String

/-- Read the lines of a document. -/
def readLines? : Nat → Progress → List Char → Option Entries
  | 0, _, _ => none
  | fuel + 1, p, cs => do
    match ← skipLines cs.length cs with
    | [] => some p.root
    | '[' :: '[' :: rest =>
      let (path, rest) ← readKey? rest.length rest
      let rest ← expect? ']' rest
      let rest ← expect? ']' rest
      let root ← openNext path p.root
      readLines? fuel ⟨root, path⟩ (← finishLine? rest)
    | '[' :: rest =>
      let (path, rest) ← readKey? rest.length rest
      let rest ← expect? ']' rest
      let root ← openTable path p.root
      readLines? fuel ⟨root, path⟩ (← finishLine? rest)
    | cs =>
      let (path, rest) ← readKey? cs.length cs
      let rest ← expect? '=' rest
      let (v, rest) ← readValue? (2 * rest.length + 2) (skipGaps rest)
      let root ← assignIn p.header path v p.root
      readLines? fuel ⟨root, p.header⟩ (← finishLine? rest)

/-- The table that a document denotes. -/
def read? (text : String) : Option Toml :=
  let cs := match text.toList with
    | c :: rest => if c = Text.byteOrderMark then rest else c :: rest
    | [] => []
  (readLines? (cs.length + 1) ⟨[], []⟩ cs).map fun entries => .table (Item.entriesToToml entries)

end ToolRelay.Toml
