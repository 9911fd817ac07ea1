/-!
# TOML values and tables

`Toml` is a value of a TOML document. `Toml.Item` is what stands under a key while a document is
read: it remembers how a table came about, because TOML lets a table be written only once.
-/

namespace ToolRelay

/-- A TOML value. -/
inductive Toml where
  /-- A text. -/
  | str (s : String)
  /-- An integer. -/
  | int (n : Int)
  /-- A float, as it was written. -/
  | float (text : String)
  /-- A truth value. -/
  | bool (b : Bool)
  /-- A date, a time or both, as written. -/
  | dateTime (text : String)
  /-- A sequence. -/
  | arr (items : List Toml)
  /-- Entries in the order written. -/
  | table (entries : List (String × Toml))
  deriving Repr, Inhabited

namespace Toml

/-- The entry of a key. -/
def get? (v : Toml) (k : String) : Option Toml :=
  match v with
  | .table entries => entries.lookup k
  | _ => none

/-- What stands under a key while a document is read. -/
inductive Item where
  /-- A value, which cannot be extended any more. -/
  | value (v : Toml)
  /-- A table. It is implicit as long as only longer names mention it, and dotted when a dotted key
  made it. -/
  | table (isImplicit isDotted : Bool) (entries : List (String × Item))
  /-- A sequence of tables, each begun by a header of its own. -/
  | tables (sections : List (List (String × Item)))
  deriving Repr, Inhabited

/-- The entries of a table that is being read. -/
abbrev Entries := List (String × Item)

/-- Replace the item of a key, or add it at the end. -/
def setItem (k : String) (item : Item) : Entries → Entries
  | [] => [(k, item)]
  | (k', item') :: rest =>
    if k = k' then (k, item) :: rest else (k', item') :: setItem k item rest

/-- Change the table at the end of a path. `change` also learns whether that table was made by a
dotted key. Tables that are missing on the way are made, as dotted or plain ones. -/
def modifyAt (isDotted : Bool) (change : Bool → Entries → Option Entries) :
    (path : List String) → (here : Bool) → Entries → Option Entries
  | [], here, entries => change here entries
  | k :: path, _, entries =>
    match entries.lookup k with
    | none => do
      let inner ← modifyAt isDotted change path isDotted []
      return setItem k (.table true isDotted inner) entries
    | some (.value _) => none
    | some (.table isImplicit wasDotted inner) =>
      if isDotted && !isImplicit then none
      else do
        let inner ← modifyAt isDotted change path wasDotted inner
        return setItem k (.table isImplicit wasDotted inner) entries
    | some (.tables sections) => do
      let last ← sections.getLast?
      let inner ← modifyAt isDotted change path false last
      return setItem k (.tables (sections.dropLast ++ [inner])) entries

/-- Split off the last name of a path. -/
def splitPath (path : List String) : List String × String :=
  (path.dropLast, path.getLast?.getD "")

/-- Put a value under a path of names in a table. -/
def assign (path : List String) (v : Toml) (entries : Entries) : Option Entries :=
  let (names, k) := splitPath path
  modifyAt true (fun here inner =>
    if here == names.isEmpty then none
    else if (inner.lookup k).isSome then none
    else some (inner ++ [(k, .value v)])) names false entries

/-- Begin the table that a header names. -/
def openTable (path : List String) (root : Entries) : Option Entries :=
  let (names, k) := splitPath path
  modifyAt false (fun _ inner =>
    match inner.lookup k with
    | none => some (inner ++ [(k, .table false false [])])
    | some (.table true false sub) => some (setItem k (.table false false sub) inner)
    | some _ => none) names false root

/-- Begin the next table of the sequence that a header in double brackets names. -/
def openNext (path : List String) (root : Entries) : Option Entries :=
  let (names, k) := splitPath path
  modifyAt false (fun _ inner =>
    match inner.lookup k with
    | none => some (inner ++ [(k, .tables [[]])])
    | some (.tables sections) => some (setItem k (.tables (sections ++ [[]])) inner)
    | some _ => none) names false root

/-- Put a value under a path of names in the table that the last header began. -/
def assignIn (header path : List String) (v : Toml) (root : Entries) : Option Entries :=
  modifyAt false (fun _ inner => assign path v inner) header false root

mutual

/-- The value that an item stands for. -/
def Item.toToml : Item → Toml
  | .value v => v
  | .table _ _ entries => .table (Item.entriesToToml entries)
  | .tables sections => .arr (Item.sectionsToToml sections)

/-- The values of entries. -/
def Item.entriesToToml : List (String × Item) → List (String × Toml)
  | [] => []
  | (k, item) :: rest => (k, item.toToml) :: Item.entriesToToml rest

/-- The values of a sequence of tables. -/
def Item.sectionsToToml : List (List (String × Item)) → List Toml
  | [] => []
  | entries :: rest => .table (Item.entriesToToml entries) :: Item.sectionsToToml rest

end

end Toml

end ToolRelay
