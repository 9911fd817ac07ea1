import ToolRelay.Failure
import ToolRelay.Json.Draft

/-!
# Endpoints

Models `base_url_of`, `endpoint_from_data` and `resolve_endpoint`. A server announces on the event
stream where messages have to be posted: an address, or the part of one that follows scheme, host
and port. The announcement is that text itself, or an object that holds it.
-/

namespace ToolRelay.Endpoint

/-- `base_url_of`: scheme, host and port of a server's address. -/
def base (url : String) : Except Failure String :=
  match Url.parse url with
  | .error why => .error (.settings (.badUrl url why))
  | .ok u =>
    if u.scheme = "http" ∨ u.scheme = "https" then .ok u.origin
    else .error (.settings (.otherScheme u.scheme url))

/-- A text starts with another. -/
def hasStart (start text : String) : Bool := start.toList.isPrefixOf text.toList

/-- `resolve_endpoint`: the address that an announced text stands for. -/
def resolve (base announced : String) : String :=
  if hasStart "http://" announced || hasStart "https://" announced then announced
  else if hasStart "/" announced then base ++ announced
  else base ++ "/" ++ announced

/-- The text in an announcement: what it holds under `uri`, or under `url` when there is no `uri`,
if it is an object; otherwise the announcement itself. -/
def announced? (data : String) : Option String :=
  let data := Text.trim data
  let text :=
    if hasStart "\x7b" data then
      match Json.read? data with
      | some v => ((v.get? "uri" <|> v.get? "url").bind Json.asString?).map Text.trim
      | none => none
    else some data
  text.filter (!·.isEmpty)

/-- `endpoint_from_data`: the address that an announcement names. -/
def ofData? (base data : String) : Option String := (announced? data).map (resolve base)

end ToolRelay.Endpoint
