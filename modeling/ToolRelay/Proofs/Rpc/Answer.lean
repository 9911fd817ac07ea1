import Mathlib.Tactic.SplitIfs
import ToolRelay.Link.Stream.Reader

/-!
# Answers to requests

A message answers a request when it has the form of a response and names the request's id. What an
event of a stream is taken for is such an answer, or nothing.

## Main definitions

* `Rpc.Answers`: a message answers the request with an id.

## Main results

* `StreamLink.responseOf?_eq_some`: an event carries a response exactly when its data is the text of
  an answer.
-/

namespace ToolRelay

namespace Rpc

/-- A message answers the request with an id: it is a response, and it names that id. -/
structure Answers (id : UInt64) (raw : Json) : Prop where
  /-- The id belongs to a request. -/
  nonzero : id ≠ notificationId
  /-- The message is a response. -/
  response : isResponse raw = true
  /-- The message names the id. -/
  id : Rpc.id? raw = some id

instance (id : UInt64) (raw : Json) : Decidable (Answers id raw) :=
  decidable_of_iff (id ≠ notificationId ∧ isResponse raw = true ∧ Rpc.id? raw = some id)
    ⟨fun ⟨h, h', h''⟩ => ⟨h, h', h''⟩, fun ⟨h, h', h''⟩ => ⟨h, h', h''⟩⟩

/-- An answer names no method, so it is no request of the server's own. -/
theorem Answers.no_method {id : UInt64} {raw : Json} (h : Answers id raw) :
    raw.hasMember "method" = false := by
  have := h.response
  simp only [isResponse, Bool.and_eq_true, Bool.not_eq_true'] at this
  exact this.1.2

end Rpc

/-- An event carries a response exactly when its data is the text of an answer. -/
theorem StreamLink.responseOf?_eq_some {data : String} {id : UInt64} {raw : Json} :
    StreamLink.responseOf? data = some (id, raw) ↔
      Json.read? data = some raw ∧ Rpc.Answers id raw := by
  constructor
  · intro h
    rw [responseOf?] at h
    split at h
    · cases h
    · next v hv =>
      split_ifs at h with hr
      split at h
      · next id' hid =>
        split_ifs at h with h0
        obtain ⟨rfl, rfl⟩ := Prod.mk.inj (Option.some.inj h)
        exact ⟨hv, h0, by simpa using hr, hid⟩
      · cases h
  · rintro ⟨hv, h0, hr, hid⟩
    simp [responseOf?, hv, hr, hid, h0]

end ToolRelay
