import ToolRelay.EventStream
import ToolRelay.Http.Message

/-!
# The internet

What a transport relies on: somebody who sends requests and brings back replies, and an event stream
whose happenings arrive while somebody waits. How servers behave is left open; `Internet.silent` is
the internet on which no server listens.
-/

namespace ToolRelay

/-- How `pump_stream` ends without a failure. -/
inductive StreamEnd where
  /-- The server closed it. -/
  | closed
  /-- Nothing happened for too long. -/
  | idle
  deriving DecidableEq, Repr

/-- What the task of `reader_loop` meets while it waits in `pump_stream`, or rests. -/
inductive Happening where
  /-- The request for the stream got no reply. -/
  | unanswered (late : Bool)
  /-- The reply to the request for the stream reports no success. -/
  | refused (status : Nat)
  /-- The reply to the request for the stream is no event stream; its type as it is shown. -/
  | otherContent (shown : String)
  /-- An event arrived. -/
  | event (e : StreamEvent)
  /-- The stream broke off. -/
  | broken (late : Bool)
  /-- The stream is not text. -/
  | notText
  /-- The stream ended. -/
  | ended (how : StreamEnd)
  /-- The wait before the stream is opened again is over. -/
  | rested
  deriving DecidableEq, Repr

/-- Whoever carries requests and streams. -/
structure Internet (ν : Type) where
  /-- Send a request. -/
  post : Post → ν → PostOutcome × ν
  /-- What happens to an event stream from this address until a wait is over. -/
  watch : String → ν → List Happening × ν

/-- The internet on which no server listens. -/
def Internet.silent : Internet Unit where
  post _ s := (.unanswered false, s)
  watch _ s := ([.unanswered false], s)

end ToolRelay
