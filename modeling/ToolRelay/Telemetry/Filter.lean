import ToolRelay.Text.Blank
import ToolRelay.Text.Hidden

/-!
# Filter directives

A filter is a list of directives with commas between them. A directive names a level, or a target, a
span with fields, or both, perhaps followed by an equals sign and a level. Here a filter is only
checked; what it lets through does not matter to this library.

The parts of a directive are found in the text without blanks at its ends but taken from the text as
it was written, so a blank in front shifts them.
-/

namespace ToolRelay.Telemetry

/-- What is wrong with a filter. -/
inductive FilterFault where
  /-- A directive is not built as it should be. -/
  | directive
  /-- There is no such level. -/
  | level
  deriving DecidableEq, Repr

/-- The wording of a fault. -/
def FilterFault.message : FilterFault → String
  | .directive => "invalid filter directive"
  | .level =>
    "error parsing level filter: expected one of \"off\", \"error\", \"warn\", \"info\", " ++
      "\"debug\", \"trace\", or a number 0-5"

/-- The names of levels. -/
def levelNames : List String := ["off", "error", "warn", "info", "debug", "trace"]

/-- A text that names a level, in either case, or gives its number. -/
def isLevel (cs : List Char) : Bool :=
  cs.isEmpty || (Text.readUInt64? cs).any (· ≤ 5) ||
    levelNames.contains (String.ofList (cs.map Text.lowerAscii))

/-- A character that a target may start with. -/
def startsTarget (c : Char) : Bool :=
  c.isAlphanum || c == '-' || c == ':' || c == '_' || (128 ≤ c.toNat && !Text.isHidden c)

/-- The part of a directive that is being read. Positions are those of the part's start. -/
inductive Part where
  /-- Nothing has been read. -/
  | outset
  /-- A level, or a target. -/
  | target
  /-- The name of a span. -/
  | span
  /-- A field of a span. -/
  | field (start : Nat)
  /-- The end of a span's fields. -/
  | fields
  /-- The end of a span. -/
  | spanEnd
  /-- A level. -/
  | level (start : Nat)
  deriving DecidableEq, Repr

/-- Read one character of a directive, at a position. -/
def Part.next (position : Nat) (c : Char) : Part → Except FilterFault Part
  | .outset =>
    if c = '[' then .ok .span else if startsTarget c then .ok .target else .error .directive
  | .target =>
    if c = '=' then .ok (.level (position + 1)) else if c = '[' then .ok .span else .ok .target
  | .span =>
    if c = ']' then .ok .spanEnd
    else if c = '\x7b' then .ok (.field (position + 1))
    else .ok .span
  | .field start =>
    if c = '\x7d' then if start = position then .error .directive else .ok .fields
    else .ok (.field start)
  | .fields => if c = ']' then .ok .spanEnd else .error .directive
  | .spanEnd => if c = '=' then .ok (.level (position + 1)) else .error .directive
  | .level start => .ok (.level start)

/-- Read characters from a position on. -/
def Part.readAll (position : Nat) (part : Part) : List Char → Except FilterFault Part
  | [] => .ok part
  | c :: rest => do
    let part ← part.next position c
    part.readAll (position + 1) rest

/-- Check one directive. -/
def checkDirective (cs : List Char) : Except FilterFault Unit := do
  match ← Part.outset.readAll 0 (Text.trimChars cs) with
  | .target => .ok ()
  | .spanEnd => .ok ()
  | .level start => if isLevel (cs.drop start) then .ok () else .error .level
  | _ => .error .directive

/-- Split a text at commas. -/
def splitCommas : List Char → List (List Char)
  | [] => [[]]
  | c :: rest =>
    if c = ',' then [] :: splitCommas rest
    else match splitCommas rest with
      | [] => [[c]]
      | first :: later => (c :: first) :: later

/-- Check a filter; empty directives count for nothing. -/
def checkFilter (text : String) : Except FilterFault Unit :=
  ((splitCommas text.toList).filter fun cs => !cs.isEmpty).forM checkDirective

end ToolRelay.Telemetry
