import PushRelay.Value.Arguments
import PushRelay.Value.Basic

/-!
# Results and outcomes

What the service answered for a target, and how the delivery to a target went.
-/

namespace PushRelay

/-- The answer of the service for one target. -/
structure DeliveryResult where
  target : Value
  raw : Value
  deriving Repr

namespace DeliveryResult

/-- The name that the service gave to the message. -/
def name (r : DeliveryResult) : Value :=
  match r.raw.entries? with
  | some entries => Entries.getD entries "name" .null
  | none => .null

/-- The result as a dictionary. -/
def toDict (r : DeliveryResult) : Value :=
  .record [("target", r.target), ("name", r.name), ("raw", r.raw)]

end DeliveryResult

/-- How the delivery to one target went. -/
structure TargetOutcome where
  target : Value
  success : Value
  result : Option DeliveryResult := none
  errorCode : Value := .null
  errorMessage : Value := .null
  statusCode : Value := .null
  latency : Value := .null
  timestamp : Value
  deriving Repr

namespace TargetOutcome

/-- The outcome as a dictionary. Its time must be an instant. -/
def toDict (o : TargetOutcome) : Except Misuse Value :=
  match o.timestamp with
  | .instant t =>
    .ok (.record [
      ("target", o.target), ("success", o.success),
      ("name", (o.result.map DeliveryResult.name).getD .null), ("error_code", o.errorCode),
      ("error_message", o.errorMessage), ("status_code", o.statusCode), ("latency_ms", o.latency),
      ("timestamp", .text t.isoText)])
  | v => .error (.noAttribute v.qualifiedTypeName "isoformat")

/-- The result of an outcome: the delivered one, or none if nothing is given
in its place. Anything else has no name to report. -/
def readResult (delivered : Option DeliveryResult) (given : Value) :
    Except Misuse (Option DeliveryResult) :=
  if delivered.isNone && given.truthy then .error (.noAttribute given.qualifiedTypeName "name")
  else .ok delivered

/-- The outcome that the given fields make; its time is `now` unless it is
given. -/
def ofArguments (named : List (String × Value)) (result : Option DeliveryResult) (now : Instant) :
    Except Misuse TargetOutcome := do
  let parameters : List (Parameter Value) := [
    ⟨"target", none⟩, ⟨"success", none⟩, ⟨"result", some .null⟩, ⟨"error_code", some .null⟩,
    ⟨"error_message", some .null⟩, ⟨"status_code", some .null⟩, ⟨"latency_ms", some .null⟩,
    ⟨"timestamp", some (.instant now)⟩]
  let given ← Parameter.bind "TargetOutcome.__init__" parameters [] named
  let get name := (given.lookup name).getD .null
  let result ← readResult result (get "result")
  .ok {
    target := get "target"
    success := get "success"
    result
    errorCode := get "error_code"
    errorMessage := get "error_message"
    statusCode := get "status_code"
    latency := get "latency_ms"
    timestamp := get "timestamp" }

end TargetOutcome
end PushRelay
