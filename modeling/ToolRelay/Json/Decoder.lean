import ToolRelay.Json.Draft
import ToolRelay.Json.Printer
import ToolRelay.Text.Quoted

/-!
# Decoders

A decoder turns a draft into a value of another type, and reports the first fault in the order in
which the text was written: a value of a wrong kind before a place where the text breaks off
later. Records may be written as objects, with unknown members ignored, or as sequences of their
fields in declaration order.

## Main definitions

* `Fault`, `Fault.message`: what may be wrong with a draft, and its wording.
* `Decoder`: functions from drafts, given the levels of nesting that are left.
* `Record`: a decoder for a record, put together field by field.
* `Decoder.ofText`, `Decoder.ofJson`: decoding whole texts and values.
-/

namespace ToolRelay.Json

/-- What a decoder met where it expected something else. -/
inductive Found where
  /-- The value `null`. -/
  | null
  /-- A truth value. -/
  | bool (b : Bool)
  /-- An integer. -/
  | int (n : Int)
  /-- A float. -/
  | float (x : Double)
  /-- A text. -/
  | text (s : String)
  /-- A sequence. -/
  | sequence
  /-- An object. -/
  | map
  deriving DecidableEq, Repr

/-- The words for what was met. -/
def Found.describe : Found → String
  | .null => "null"
  | .bool b => "boolean `" ++ (if b then "true" else "false") ++ "`"
  | .int n => "integer `" ++ toString n ++ "`"
  | .float x => "floating point `" ++ floatText x ++ "`"
  | .text s => "string " ++ Text.quoted s
  | .sequence => "sequence"
  | .map => "map"

/-- Why a draft does not denote a value of the wanted type. -/
inductive Fault where
  /-- The text is not JSON, or goes on after the value. -/
  | malformed
  /-- A sequence that stands for a record or a tuple has items left over. -/
  | itemsLeft (length : Nat)
  /-- A member that must be there is not. -/
  | missingField (name : String)
  /-- A member occurs twice. -/
  | duplicateField (name : String)
  /-- A name that stands for none of the alternatives. -/
  | unknownVariant (name : String) (expected : List String)
  /-- A value of a wrong kind. -/
  | invalidType (found : Found) (expected : String)
  /-- A value of the right kind that is out of range. -/
  | invalidValue (found : Found) (expected : String)
  /-- A sequence of a wrong length. -/
  | invalidLength (length : Nat) (expected : String)
  deriving DecidableEq, Repr

/-- Alternatives in words: two are joined by "or", more are listed. -/
def describeVariants : List String → String
  | [] => "there are no variants"
  | [a] => "`" ++ a ++ "`"
  | [a, b] => "`" ++ a ++ "` or `" ++ b ++ "`"
  | names => "one of " ++ ", ".intercalate (names.map fun n => "`" ++ n ++ "`")

/-- The wording of a fault; a text that is not JSON has none. -/
def Fault.message : Fault → Option String
  | .malformed => none
  | .itemsLeft n => some ("invalid length " ++ toString n ++ ", expected fewer elements in array")
  | .missingField name => some ("missing field `" ++ name ++ "`")
  | .duplicateField name => some ("duplicate field `" ++ name ++ "`")
  | .unknownVariant name expected =>
    some ("unknown variant `" ++ name ++ "`, expected " ++ describeVariants expected)
  | .invalidType found expected =>
    some ("invalid type: " ++ found.describe ++ ", expected " ++ expected)
  | .invalidValue found expected =>
    some ("invalid value: " ++ found.describe ++ ", expected " ++ expected)
  | .invalidLength n expected =>
    some ("invalid length " ++ toString n ++ ", expected " ++ expected)

/-- A function from drafts to values of a type, given the levels of nesting that are left. -/
abbrev Decoder (α : Type) := Nat → Draft → Except Fault α

namespace Decoder

/-- The fault of a draft where another kind of value was expected. -/
def mismatch (expected : String) : Draft → Fault
  | .null => .invalidType .null expected
  | .bool b => .invalidType (.bool b) expected
  | .int n => .invalidType (.int n) expected
  | .float x => .invalidType (.float x) expected
  | .str s => .invalidType (.text s) expected
  | .arr _ _ => .invalidType .sequence expected
  | .obj _ _ => .invalidType .map expected
  | .hugeNumber | .halfPair | .broken => .malformed

/-- A text. -/
def text : Decoder String
  | _, .str s => .ok s
  | _, d => .error (mismatch "a string" d)

/-- A truth value. -/
def bool : Decoder Bool
  | _, .bool b => .ok b
  | _, d => .error (mismatch "a boolean" d)

/-- An unsigned 64-bit integer. -/
def uint64 : Decoder UInt64
  | _, .int n =>
    if 0 ≤ n ∧ n < UInt64.size then .ok (UInt64.ofNat n.toNat)
    else .error (.invalidValue (.int n) "u64")
  | _, d => .error (mismatch "u64" d)

/-- A signed 64-bit integer. -/
def int64 : Decoder Int64
  | _, .int n =>
    if Int64.minValue.toInt ≤ n ∧ n ≤ Int64.maxValue.toInt then .ok (Int64.ofInt n)
    else .error (.invalidValue (.int n) "i64")
  | _, d => .error (mismatch "i64" d)

/-- Any value. -/
def value : Decoder Json := fun levels d =>
  match d.toJson? levels with
  | some v => .ok v
  | none => .error .malformed

/-- A value that may be `null`. -/
def optional {α : Type} (f : Decoder α) : Decoder (Option α)
  | _, .null => .ok none
  | levels, d => (f levels d).map some

/-- Anything that is JSON, however deep and whatever its numbers and texts denote. -/
def skip : Decoder Unit := fun _ d =>
  if d.isWhole then .ok () else .error .malformed

/-- A sequence of values of one type. -/
def list {α : Type} (f : Decoder α) : Decoder (List α)
  | 0, .arr _ _ => .error .malformed
  | levels + 1, .arr items closed => do
    let vs ← items.mapM (f levels)
    if closed then .ok vs else .error .malformed
  | _, d => .error (mismatch "a sequence" d)

/-- A sequence of exactly two values. -/
def pair {α β : Type} (f : Decoder α) (g : Decoder β) : Decoder (α × β)
  | 0, .arr _ _ => .error .malformed
  | levels + 1, .arr items closed => do
    let expected := "a tuple of size 2"
    let fault := fun n => if closed then Fault.invalidLength n expected else .malformed
    match items with
    | [] => .error (fault 0)
    | [a] =>
      let _ ← f levels a
      .error (fault 1)
    | a :: b :: rest =>
      let x ← f levels a
      let y ← g levels b
      if rest.isEmpty && closed then .ok (x, y) else .error (.itemsLeft items.length)
  | _, d => .error (mismatch "a tuple of size 2" d)

/-- One of several names: the name as a text, or as the only key of an object whose value is
`null`. -/
def variant {α : Type} (names : List (String × α)) : Decoder α := fun levels d =>
  let pick := fun s => match names.lookup s with
    | some a => Except.ok a
    | none => .error (.unknownVariant s (names.map (·.1)))
  match d with
  | .str s => pick s
  | .obj ((some s, d) :: rest) closed =>
    if levels = 0 then .error .malformed
    else do
      let a ← pick s
      match d with
      | .null => if rest.isEmpty && closed then .ok a else .error .malformed
      | d => .error (mismatch "unit" d)
  | _ => .error .malformed

/-- The value of a whole text. -/
def ofText {α : Type} (f : Decoder α) (s : String) : Except Fault α := do
  let (d, complete) := Draft.read s
  let a ← match f maxLevels d with
    | .error (.itemsLeft _) => .error .malformed
    | r => r
  if complete then .ok a else .error .malformed

/-- The value that a JSON value denotes. -/
def ofJson {α : Type} (f : Decoder α) (v : Json) : Except Fault α :=
  f (v.depth + 1) (Draft.ofJson v)

end Decoder

/-! ## Records -/

/-- A field as a record's reader sees it. -/
structure FieldInfo where
  /-- The member's key. -/
  name : String
  /-- The fault of a draft that stands for the field, if it has one. -/
  check : Nat → Draft → Option Fault
  /-- The record may be written without the field. -/
  isOptional : Bool
  /-- A sequence may end before the field. -/
  mayEndBefore : Bool

/-- A decoder for a record, put together field by field. -/
structure Record (α : Type) where
  /-- The fields in declaration order. -/
  fields : List FieldInfo
  /-- The record from the drafts of its fields. -/
  build : Nat → (String → Option Draft) → Except Fault α

namespace Record

/-- A record without fields. -/
def pure {α : Type} (a : α) : Record α := ⟨[], fun _ _ => .ok a⟩

/-- The first fault of decoding. -/
def faultOf {α : Type} (f : Decoder α) (levels : Nat) (d : Draft) : Option Fault :=
  match f levels d with
  | .ok _ => none
  | .error e => some e

/-- One more field; without it, `absent` tells what the record has instead. A sequence may end
before the field only if `mayEnd` says so. -/
def fieldWith {α β : Type} (r : Record (α → β)) (name : String) (f : Decoder α)
    (absent : Option α) (mayEnd : Bool) : Record β where
  fields := r.fields ++ [⟨name, faultOf f, absent.isSome, mayEnd⟩]
  build := fun levels get => do
    let g ← r.build levels get
    match get name, absent with
    | some d, _ => return g (← f levels d)
    | none, some a => return g a
    | none, none => .error (.missingField name)

/-- One more field, which must be there. -/
def field {α β : Type} (r : Record (α → β)) (name : String) (f : Decoder α) : Record β :=
  r.fieldWith name f none false

/-- One more field, which has a value when it is absent. -/
def fieldOr {α β : Type} (r : Record (α → β)) (name : String) (f : Decoder α) (absent : α) :
    Record β :=
  r.fieldWith name f (some absent) true

/-- The first fault of the members in the order written, given the keys that came before. -/
def scan (fields : List FieldInfo) (levels : Nat) (seen : List String) :
    List (Option String × Draft) → Option Fault
  | [] => none
  | (none, _) :: _ => some .malformed
  | (some k, d) :: rest =>
    match fields.find? (·.name == k) with
    | none =>
      match faultOf Decoder.skip levels d with
      | some e => some e
      | none => scan fields levels seen rest
    | some f =>
      if seen.contains k then some (.duplicateField k)
      else
        match f.check levels d with
        | some e => some e
        | none => scan fields levels (k :: seen) rest

/-- The draft of a member. -/
def memberOf (members : List (Option String × Draft)) (name : String) : Option Draft :=
  (members.find? fun m => m.1 == some name).map (·.2)

/-- The first fault of items that stand for the fields in declaration order; the count is that of
the fields before. -/
def scanItems (expected : String) (levels : Nat) (closed : Bool) :
    Nat → List FieldInfo → List Draft → Option Fault
  | _, [], _ => none
  | n, f :: fields, [] =>
    if !closed then some .malformed
    else if f.mayEndBefore then scanItems expected levels closed (n + 1) fields []
    else some (.invalidLength n expected)
  | n, f :: fields, d :: items =>
    match f.check levels d with
    | some e => some e
    | none => scanItems expected levels closed (n + 1) fields items

/-- The draft that stands for a field in a sequence. -/
def itemOf (fields : List FieldInfo) (items : List Draft) (name : String) : Option Draft :=
  ((fields.zip items).find? fun p => p.1.name == name).map (·.2)

/-- The decoder of a record, with what is said of it in faults and how they speak of
its length. -/
def decoderWith {α : Type} (r : Record α) (what : String) (lengthOf : String) : Decoder α
  | 0, .obj _ _ => .error .malformed
  | 0, .arr _ _ => .error .malformed
  | levels + 1, .obj members closed =>
    match scan r.fields levels [] members with
    | some e => .error e
    | none => if closed then r.build levels (memberOf members) else .error .malformed
  | levels + 1, .arr items closed =>
    match scanItems lengthOf levels closed 0 r.fields items with
    | some e => .error e
    | none =>
      if items.length ≤ r.fields.length ∧ closed then r.build levels (itemOf r.fields items)
      else .error (.itemsLeft items.length)
  | _, d => .error (Decoder.mismatch what d)

/-- "1 element", "2 elements". -/
def elements (n : Nat) : String :=
  if n = 1 then "1 element" else toString n ++ " elements"

/-- The decoder of a record with a name. -/
def decoder {α : Type} (r : Record α) (name : String) : Decoder α :=
  let what := "struct " ++ name
  r.decoderWith what (what ++ " with " ++ elements r.fields.length)

end Record

end ToolRelay.Json
