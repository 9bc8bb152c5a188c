import PushRelay.Http.Response
import PushRelay.Message.Failure
import PushRelay.Scope

/-!
# Failures of deliveries

Why a client does not come to a result: an error of the relay, or one of
whatever it works with.
-/

namespace PushRelay.Delivery

/-- Why a client does not come to a result. -/
inductive Failure where
  | relay (e : RelayError)
  | raised (e : Raised)
  | misused (e : Misuse)
  /-- What is to be a header cannot be one. -/
  | header (e : Http.HeaderError)
  /-- The body of an answer has no text. -/
  | body (e : Http.TextError)
  /-- The scope of the send cannot be left. -/
  | scope (e : ScopeError)
  /-- The transport is closed. -/
  | closed
  /-- There is no first result. -/
  | noResult
  deriving Repr

namespace Failure

/-- What the failure is called. -/
def className : Failure → String
  | .relay e => e.className
  | .raised e => e.name
  | .misused e => e.className
  | .header _ => "UnicodeEncodeError"
  | .body e => e.className
  | .scope e => e.className
  | .closed => "RuntimeError"
  | .noResult => "IndexError"

/-- What the failure says. -/
def message : Failure → String
  | .relay e => e.text
  | .raised e => e.text
  | .misused e => e.message
  | .header e => e.message
  | .body e => e.message
  | .scope e => e.message
  | .closed => "Cannot send a request, as the client has been closed."
  | .noResult => "list index out of range"

/-- The failure that an error is. -/
def ofTrouble : Trouble → Failure
  | .relay e => .relay e
  | .raised e => .raised e

/-- The failure of working on a message. -/
def ofMessage : MessageFailure → Failure
  | .refused e => .relay e
  | .misused e => .misused e

end Failure
end PushRelay.Delivery
