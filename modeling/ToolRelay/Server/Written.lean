import ToolRelay.Server.Listing
import ToolRelay.Toml.Printer
import ToolRelay.Toml.Reader

/-!
# Written listings

A listing is written as JSON or as TOML. Both write the fields of an entry in the same order and
leave out a field that has its default. Both readers accept an entry as an object or table, whose
unknown members are ignored, and as a sequence of its fields.

## Main definitions

* `Listing.ofJson?`, `Listing.toJson`: JSON.
* `Listing.ofToml?`, `Listing.toToml?`: TOML, whose integers are signed.
-/

namespace ToolRelay

open Json (Decoder Record)

namespace TransportKind

/-- The names of the kinds. -/
def names : List (String × TransportKind) := [("http", .http), ("sse", .sse)]

/-- Read the name of a kind. -/
def decoder : Decoder TransportKind := Decoder.variant names

end TransportKind

namespace Entry

/-- The fields of an entry. -/
def record : Record Entry :=
  (((((((Record.pure Entry.mk).field "name" Decoder.text).field "url" Decoder.text).fieldOr
    "apiKey" (Decoder.optional Decoder.text) none).fieldOr
    "timeoutMs" (Decoder.optional Decoder.uint64) none).fieldOr
    "enabled" Decoder.bool true).fieldOr
    "transport" (Decoder.optional TransportKind.decoder) none).fieldOr
    "verifyTls" Decoder.bool true

/-- Read an entry. -/
def decoder : Decoder Entry := record.decoder "McpServerConfig"

/-- The members of an entry's JSON form, without those that have their default. -/
def members (e : Entry) : List (String × Json) :=
  [("name", .str e.name), ("url", .str e.url)] ++
    (e.apiKey.map fun k => ("apiKey", Json.str k)).toList ++
    (e.timeoutMs.map fun n => ("timeoutMs", Json.ofUInt64 n)).toList ++
    (if e.enabled then [] else [("enabled", .bool false)]) ++
    (e.transport.map fun t => ("transport", Json.str t.name)).toList ++
    (if e.verifyTls then [] else [("verifyTls", .bool false)])

/-- The JSON form of an entry, its members in the order of the fields. -/
def toJson (e : Entry) : Json := .obj e.members

/-- The lines of an entry's TOML form, unless its timeout does not fit. -/
def tomlFields? (e : Entry) : Option (List (String × Toml)) :=
  if e.timeoutMs.any fun n => Int64.maxValue.toInt < n.toNat then none
  else some
    ([("name", .str e.name), ("url", .str e.url)] ++
      (e.apiKey.map fun k => ("apiKey", Toml.str k)).toList ++
      (e.timeoutMs.map fun n => ("timeoutMs", Toml.int n.toNat)).toList ++
      (if e.enabled then [] else [("enabled", .bool false)]) ++
      (e.transport.map fun t => ("transport", Toml.str t.name)).toList ++
      (if e.verifyTls then [] else [("verifyTls", .bool false)]))

/-! ## From TOML -/

/-- A text. -/
def tomlText? : Toml → Option String
  | .str s => some s
  | _ => none

/-- A truth value. -/
def tomlBool? : Toml → Option Bool
  | .bool b => some b
  | _ => none

/-- A number that is not negative. -/
def tomlNumber? : Toml → Option UInt64
  | .int n => if 0 ≤ n then some (UInt64.ofNat n.toNat) else none
  | _ => none

/-- The name of a transport: as a text, or as the only key of a table whose value is empty. -/
def tomlKind? : Toml → Option TransportKind
  | .str s => TransportKind.names.lookup s
  | .table [(s, .table [])] => TransportKind.names.lookup s
  | .table [(s, .arr [])] => TransportKind.names.lookup s
  | _ => none

/-- The names of the fields in declaration order. -/
def fieldNames : List String :=
  ["name", "url", "apiKey", "timeoutMs", "enabled", "transport", "verifyTls"]

/-- Read a field that may be absent. -/
def tomlField? {α : Type} (get : String → Option Toml) (name : String) (read : Toml → Option α) :
    Option (Option α) :=
  match get name with
  | none => some none
  | some v => (read v).map some

/-- Read an entry from its fields. -/
def ofTomlFields? (get : String → Option Toml) : Option Entry := do
  let name ← (get "name").bind tomlText?
  let url ← (get "url").bind tomlText?
  let apiKey ← tomlField? get "apiKey" tomlText?
  let timeoutMs ← tomlField? get "timeoutMs" tomlNumber?
  let enabled ← tomlField? get "enabled" tomlBool?
  let transport ← tomlField? get "transport" tomlKind?
  let verifyTls ← tomlField? get "verifyTls" tomlBool?
  return { name, url, apiKey, timeoutMs, transport
           enabled := enabled.getD true
           verifyTls := verifyTls.getD true }

/-- Read an entry: a table, or a sequence of the fields. -/
def ofToml? : Toml → Option Entry
  | .table entries => ofTomlFields? fun name => entries.lookup name
  | .arr items => ofTomlFields? fun name => (fieldNames.zip items).lookup name
  | _ => none

end Entry

namespace Listing

/-- The fields of a listing. -/
def record : Record Listing :=
  (Record.pure Listing.mk).fieldOr "servers" (Decoder.list Entry.decoder) []

/-- Read a listing from JSON text. -/
def ofJson? (text : String) : Except ConfigFault Listing :=
  match Decoder.ofText (record.decoder "McpServersConfig") text with
  | .ok l => .ok l
  | .error why => .error (.badJson why)

/-- The JSON form of a listing. -/
def toJson (l : Listing) : Json := .obj [("servers", .arr (l.servers.map Entry.toJson))]

/-- The JSON text of a listing. -/
def toJsonText (l : Listing) : String := l.toJson.renderIndented

/-- Read a listing from TOML text. -/
def ofToml? (text : String) : Except ConfigFault Listing :=
  let read : Option Listing := do
    let root ← Toml.read? text
    match root.get? "servers" with
    | none => return ⟨[]⟩
    | some (.arr items) => return ⟨← items.mapM Entry.ofToml?⟩
    | some _ => none
  match read with
  | some l => .ok l
  | none => .error .badToml

/-- The TOML text of a listing, unless a timeout does not fit. -/
def toToml? (l : Listing) : Except ConfigFault String :=
  match l.servers.mapM Entry.tomlFields? with
  | some sections => .ok (Toml.renderSections "servers" sections)
  | none => .error .tomlRange

end Listing

end ToolRelay
