import PushRelay.Enumeration
import PushRelay.Number.Numeral
import PushRelay.Value.Arguments
import PushRelay.Value.Text

/-!
# Configuration

The limits that messages are held to, the scope that tokens are asked for, and
the settings of the transport. The environment can override some of them.
-/

namespace PushRelay

/-- Where messages of a project are sent to, before and after the project's
name. -/
def sendEndpoint : String × String := ("https://fcm.googleapis.com/v1/projects/", "/messages:send")

/-- The send endpoint of a project. -/
def endpointFor (project : Value) : String := sendEndpoint.1 ++ project.shown ++ sendEndpoint.2

/-- The scope that sending needs. -/
def sendScope : String := "https://www.googleapis.com/auth/firebase.messaging"

/-- The most targets that a message may have. -/
def maxTargets : Nat := 1000

/-- The longest time to live in seconds, four weeks. -/
def maxTimeToLive : Nat := 2419200

/-- How urgent a message is. -/
inductive Priority where
  | high
  | normal
  deriving DecidableEq, Repr

namespace Priority

/-- The priority as it is written in a message. -/
def text : Priority → String
  | .high => "high"
  | .normal => "normal"

/-- What the priority is called. -/
def name : Priority → String
  | .high => "HIGH"
  | .normal => "NORMAL"

/-- All priorities. -/
def all : List Priority := [.high, .normal]

end Priority

/-- The priorities as an enumeration. -/
def priorities : Enumeration := ⟨"Priority", Priority.all.map fun p => (p.name, p.text)⟩

/-- Settings of a client. -/
structure Config where
  maxTargets : Value := .int PushRelay.maxTargets
  maxTimeToLive : Value := .int PushRelay.maxTimeToLive
  allowedPriorities : Value := .tuple (Priority.all.map fun p => .text p.text)
  scope : Value := .text sendScope
  requestTimeout : Value := .float (Binary64.ofQuotient 30 1)
  userAgent : Value := .text "fcm-relay/0.1"
  deriving Repr

namespace Config

/-- The settings by name. -/
def fields (c : Config) : List (String × Value) := [
  ("max_targets", c.maxTargets), ("max_time_to_live", c.maxTimeToLive),
  ("allowed_priorities", c.allowedPriorities), ("scope", c.scope),
  ("request_timeout", c.requestTimeout), ("user_agent", c.userAgent)]

/-- The configuration that the given settings make, the others left as they
are by default. -/
def ofArguments (named : List (String × Value)) : Except Misuse Config := do
  let default : Config := {}
  let parameters := default.fields.map fun (name, v) => Parameter.mk name (some v)
  let given ← Parameter.bind "RelayConfig.__init__" parameters [] named
  let get name := (given.lookup name).getD .null
  .ok {
    maxTargets := get "max_targets"
    maxTimeToLive := get "max_time_to_live"
    allowedPriorities := get "allowed_priorities"
    scope := get "scope"
    requestTimeout := get "request_timeout"
    userAgent := get "user_agent" }

/-- The value of a variable that is set to something. -/
def setting? (env : List (String × String)) (name : String) : Option String :=
  (env.lookup name).filter (!·.isEmpty)

/-- The configuration with what the environment overrides. -/
def ofEnvironment (env : List (String × String)) : Except Numeral.Error Config := do
  let config : Config := {}
  let config ← match setting? env "FCM_RELAY_REQUEST_TIMEOUT" with
    | some text => pure { config with requestTimeout := .float (← Numeral.readDouble text) }
    | none => pure config
  let config ← match setting? env "FCM_RELAY_MAX_TARGETS" with
    | some text => pure { config with maxTargets := .int (← Numeral.readWhole text) }
    | none => pure config
  match setting? env "FCM_RELAY_SCOPE" with
  | some text => pure { config with scope := .text text }
  | none => pure config

end Config

end PushRelay
