import ToolRelay.EventStream
import ToolRelay.Failure
import ToolRelay.Json.Decoder

/-!
# Envelopes

Models the codec of JSON-RPC messages. Messages are JSON objects with a `jsonrpc` member. A request
carries an id, unless it is a notification, whose id is zero and is not written. A response carries
a result or an error, and no method: a server's own requests share the ids of ours and are never
taken for responses.

## Main definitions

* `Rpc.envelope`: what `encode_request` builds.
* `Rpc.isMessage`, `Rpc.isResponse`, `Rpc.id?`: what a value is.
* `Rpc.result`: what `decode_response` gives.
* `Rpc.parse`: what `parse_response_text` finds in the text of a reply.
-/

namespace ToolRelay.Rpc

open Json (Decoder Record)

/-- The id that marks a notification. -/
def notificationId : UInt64 := 0

/-- The error code that stands for one that is missing. -/
def internalError : Int64 := -32603

/-- `encode_request`: the message of a request. -/
def envelope (id : UInt64) (method : String) (params : Option Json) : Json :=
  .ofMembers <|
    (if id = notificationId then [] else [("id", .ofUInt64 id)]) ++
      [("jsonrpc", .str "2.0"), ("method", .str method)] ++
      (params.map fun p => ("params", p)).toList

/-- `is_jsonrpc_message`: a value is a message. -/
def isMessage (v : Json) : Bool := v.hasMember "jsonrpc"

/-- `is_jsonrpc_response`: a value is a response to a request. -/
def isResponse (v : Json) : Bool :=
  v.hasMember "jsonrpc" && !v.hasMember "method" && (v.hasMember "result" || v.hasMember "error")

/-- `response_id`: the id of a message, which is a number or its decimal text. -/
def id? (v : Json) : Option UInt64 :=
  match v.get? "id" with
  | some (.int n) => (Json.int n).asUInt64?
  | some (.str s) => Text.readUInt64? (Text.trimChars s.toList)
  | _ => none

/-! ## Responses -/

/-- The error of a response. -/
structure ErrorObject where
  /-- The code. -/
  code : Int64
  /-- What happened. -/
  message : String
  /-- Anything else. -/
  data : Option Json := none
  deriving DecidableEq, Repr

namespace ErrorObject

/-- The fields of an error. -/
def record : Record ErrorObject :=
  (((Record.pure ErrorObject.mk).field "code" Decoder.int64).field "message"
    Decoder.text).fieldOr "data" (Decoder.optional Decoder.value) none

/-- Read an error. -/
def decoder : Decoder ErrorObject := record.decoder "JsonRpcErrorObject"

/-- The JSON form of an error, its members in the order of the fields. -/
def toJson (e : ErrorObject) : Json :=
  .obj ([("code", .int e.code.toInt), ("message", .str e.message)] ++
    (e.data.map fun d => ("data", d)).toList)

/-- Read an error that a server sent. One that is not written as it should be still counts: its code
is the internal error unless it has one, and its message is its own text unless it has one. -/
def ofValue (v : Json) : ErrorObject :=
  match Decoder.ofJson decoder v with
  | .ok e => e
  | .error _ =>
    { code := ((v.get? "code").bind Json.asInt64?).getD internalError
      message := ((v.get? "message").bind Json.asString?).getD v.render }

/-- The failure that an error stands for. -/
def failure (e : ErrorObject) : Failure := .rpc e.code e.message

end ErrorObject

/-- `decode_response`: the result of a response; an error counts even beside a result. -/
def result (v : Json) : Except Failure Json :=
  match v with
  | .obj _ =>
    match v.get? "error", v.get? "result" with
    | some e, _ => .error (ErrorObject.ofValue e).failure
    | none, some r => .ok r
    | none, none => .error (.protocol .noResult)
  | _ => .error (.protocol .notObject)

/-! ## Replies -/

/-- The message in the data of an event. -/
def ofEvent? (e : StreamEvent) : Option Json :=
  match Json.read? e.data with
  | some v => if isMessage v then some v else none
  | none => none

/-- The text of a reply without byte order marks at its front and blanks at its ends. -/
def significant (text : String) : List Char :=
  Text.trimChars (text.toList.dropWhile (· == Text.byteOrderMark))

/-- `parse_response_text`: the message in the text of a reply, which is the text itself when it is
written as an object or a sequence, or the first message among the events when it is written as an
event stream. -/
def parse (text : String) : Except Failure Json :=
  match significant text with
  | [] => .error (.protocol .emptyBody)
  | c :: rest =>
    if c = '\x7b' ∨ c = '[' then
      match Json.read? (String.ofList (c :: rest)) with
      | some v => .ok v
      | none => .error (.protocol .notJson)
    else
      match (EventStream.events (c :: rest ++ ['\n', '\n'])).findSome? ofEvent? with
      | some v => .ok v
      | none => .error (.protocol .noMessage)

end ToolRelay.Rpc
