import PushRelay.Config
import PushRelay.Json.Writer
import PushRelay.Message.Basic
import PushRelay.Message.Failure
import PushRelay.Value.Shape

/-!
# Validation

The rules that a message is held to before anything is sent. They are checked
in order, and the first that is broken is reported with the field it is about.
-/

namespace PushRelay.Message

open MessageFailure (invalid ofMisuse)

/-- The targets are a sequence with at least one element and no more than
allowed. -/
def checkTargets (targets : Value) (config : Config) : Except MessageFailure Unit :=
  match targets with
  | .null => invalid "the message's targets must not be None" (.text "targets")
  | .text _ | .bytes _ =>
    invalid "the message's targets must be a sequence of strings" (.text "targets")
  | targets => do
    let n ← ofMisuse targets.length
    if n = 0 then invalid "the message must specify at least one target" (.text "targets")
    else if ← ofMisuse (config.maxTargets.isBelow n) then
      let limit ← ofMisuse config.maxTargets.printed
      invalid s!"the message may specify at most {limit} targets" (.text "targets")
    else .ok ()

/-- Whether the time to live is out of bounds. -/
def badTimeToLive (ttl : Value) (config : Config) : Except Misuse Bool :=
  match ttl with
  | .int n => if n < 0 then .ok true else config.maxTimeToLive.isBelow n
  | _ => .ok true

/-- The time to live is a number of seconds within bounds. -/
def checkTimeToLive (ttl : Value) (config : Config) : Except MessageFailure Unit := do
  if ← ofMisuse (badTimeToLive ttl config) then
    let limit ← ofMisuse config.maxTimeToLive.printed
    invalid s!"the message's time_to_live must be an integer between 0 and {limit}"
      (.text "time_to_live")
  else .ok ()

/-- Whether the priority is none of those allowed. -/
def badPriority (priority : Value) (config : Config) : Except Misuse Bool :=
  match priority with
  | .text s =>
    if s.isEmpty then .ok false else return !(← config.allowedPriorities.containsText s)
  | _ => .ok true

/-- The priority is empty or one of those allowed. -/
def checkPriority (priority : Value) (config : Config) : Except MessageFailure Unit := do
  if ← ofMisuse (badPriority priority config) then
    let allowed ← ofMisuse config.allowedPriorities.joined
    invalid s!"priority must be one of {allowed}" (.text "priority")
  else .ok ()

/-- The refusal of data that has no JSON text. -/
def unserializable (e : Json.WriteError) : RelayError :=
  .validation (.text s!"message data is not JSON serializable: {e.message}") (.text "data")

/-- The data has a JSON text. -/
def checkData (data : Value) : Except MessageFailure Unit :=
  match data with
  | .null => .ok ()
  | data =>
    match Json.write data with
    | .ok _ => .ok ()
    | .error e => .error (.refused (unserializable e))

/-- The message that is there, held to the limits of a configuration. -/
def validate (message : Option Message) (config : Config) : Except MessageFailure Message :=
  match message with
  | none => invalid "the message must not be None" .null
  | some m => do
    checkTargets m.targets config
    checkTimeToLive m.timeToLive config
    checkPriority m.priority config
    checkData m.data
    .ok m

end PushRelay.Message
