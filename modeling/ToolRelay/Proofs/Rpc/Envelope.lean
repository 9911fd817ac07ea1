import ToolRelay.Proofs.Json.Plain
import ToolRelay.Rpc.Envelope

/-!
# What requests look like

The members of the message of a request: its id, unless it is a notification, the version of the
protocol, and its method. So a request is a message, and it is never taken for a response.

## Main results

* `Rpc.id_envelope`, `Rpc.method_envelope`: members of the message of a request.
* `Rpc.plain_envelope`: a request with plain parameters is plain.
* `Rpc.isMessage_envelope`, `Rpc.isResponse_envelope`: what a request is taken for.
-/

namespace ToolRelay.Rpc

variable (id : UInt64) (method : String) (params : Option Json)

/-- The id of a request is written, unless it is that of a notification. -/
theorem id_envelope : (envelope id method params).get? "id" =
    if id = notificationId then none else some (.ofUInt64 id) := by
  rw [envelope, Json.get?_ofMembers]
  cases params <;> split_ifs <;> rfl

theorem version_envelope : (envelope id method params).get? "jsonrpc" = some (.str "2.0") := by
  rw [envelope, Json.get?_ofMembers]
  cases params <;> split_ifs <;> rfl

/-- The message of a request has its method. -/
theorem method_envelope : (envelope id method params).get? "method" = some (.str method) := by
  rw [envelope, Json.get?_ofMembers]
  cases params <;> split_ifs <;> rfl

theorem isMessage_envelope : isMessage (envelope id method params) = true := by
  rw [isMessage, Json.hasMember, version_envelope]
  rfl

/-- A request is no response, whatever its parameters are. -/
theorem isResponse_envelope : isResponse (envelope id method params) = false := by
  simp [isResponse, Json.hasMember, method_envelope]

/-- A request with plain parameters is plain, one level deeper. -/
theorem plain_envelope {levels : Nat} (h : ∀ p ∈ params, p.PlainWithin levels) :
    (envelope id method params).PlainWithin (levels + 1) := by
  have hid : (Json.ofUInt64 id).PlainWithin levels := .uint64 levels id
  refine .ofMembers (List.forall_mem_append.2 ⟨List.forall_mem_append.2 ⟨?_, ?_⟩, .optional h⟩)
  · split_ifs
    · exact nofun
    · simpa using hid
  · simpa using ⟨Json.PlainWithin.str levels "2.0", Json.PlainWithin.str levels method⟩

end ToolRelay.Rpc
