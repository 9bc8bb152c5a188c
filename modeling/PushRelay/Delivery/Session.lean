import PushRelay.Delivery.Failure
import PushRelay.Http.Response
import PushRelay.Log.Setup
import PushRelay.Token.Exchange

/-!
# Sessions

What changes while a client is at work: the clock, the tags of log lines, and
all that has been asked, requested and logged so far. What answers come, and
what is logged, lies outside.
-/

namespace PushRelay.Delivery

/-- What becomes of a request. -/
inductive Reply where
  | response (r : Http.Response)
  | failed (e : Raised)
  deriving Repr

/-- What becomes of a request, and by how many microseconds the clock, which
may be set back, moves until then. -/
structure Answer where
  reply : Reply
  takes : Int := 0
  deriving Repr

/-- The surroundings of a client: the answers to its requests, by the number
of requests before, where its batches get their ids, and how it logs, if it
does. -/
structure Surroundings where
  answers : Nat → Answer
  ids : IdSource
  logging : Option Log.Setup

/-- A session. -/
structure Session where
  /-- Microseconds since the start of 1970. -/
  clock : Int
  /-- How many batches have had an id. -/
  batches : Nat := 0
  tagging : Tagging := {}
  /-- The credentials for which tokens were wanted. -/
  credentials : List Value := []
  /-- What the authority was given. -/
  calls : List Token.Call := []
  requests : List Http.Request := []
  /-- What was logged. -/
  lines : List String := []
  /-- Whether the transport is closed. -/
  closed : Bool := false
  deriving Repr

namespace Session

/-- Binds names for the time being. -/
def bind (s : Session) (values : Bindings) : Session := { s with tagging := s.tagging.bind values }

/-- The time as a number of seconds. -/
def seconds (s : Session) : Binary64 := Binary64.ofQuotient s.clock 1000000

/-- The whole milliseconds from one time to another, both in seconds. -/
def milliseconds (start stop : Binary64) : Int := (((stop.sub start).scaleBy 1000).truncate?).getD 0

/-- The time as an instant. -/
def now (s : Session) : Instant := Instant.ofMicros s.clock

/-- Logs a message. -/
def log (s : Session) (env : Surroundings) (site : Log.Site) (level : Log.Level)
    (message : String) (attributes : List (String × Value)) : Session :=
  let record := Log.recordOf site level message attributes
  match env.logging.bind (·.line? s.now s.tagging.tags record) with
  | some line => { s with lines := s.lines ++ [line] }
  | none => s

/-- Does something in a new scope, which is left whether it succeeds or not. -/
def within {α : Type} (s : Session) (env : Surroundings) (bindings : Bindings)
    (body : Scope → Session → Except Failure α × Session) : Except Failure α × Session :=
  let (scope, batches) := Scope.new env.ids (.text "") bindings s.clock s.batches
  let (scope, tagging) := scope.enter s.tagging
  let (result, s) := body scope { s with batches, tagging }
  match scope.exit s.tagging with
  | .ok (_, tagging) => (result, { s with tagging })
  | .error e => (.error (.scope e), s)

end Session
end PushRelay.Delivery
