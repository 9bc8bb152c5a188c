import PushRelay.Message.Basic
import PushRelay.Message.Failure
import PushRelay.Value.Shape

/-!
# Payloads

Messages as dictionaries. Reading a payload checks the fields whose type
matters; writing one leaves out the fields that hold nothing.
-/

namespace PushRelay

open MessageFailure (invalid ofMisuse)

/-- The entries of a value that keys can be looked up in. -/
def Value.lookupTable (v : Value) : Except Misuse Entries :=
  match v.entries? with
  | some entries => .ok entries
  | none => .error (.noAttribute v.qualifiedTypeName "get")

namespace Notification

/-- Reads a notification; a value that holds nothing is an empty one. -/
def ofPayload (data : Value) : Except Misuse Notification := do
  let entries ← if data.truthy then data.lookupTable else .ok []
  let get name := Entries.getD entries name (.text "")
  .ok ⟨get "title", get "body", get "click_action", get "tag"⟩

/-- The notification as a dictionary. -/
def toPayload (n : Notification) : Value := .record n.fields

end Notification

/-- The field if it holds something. -/
def whenPresent (name : String) (v : Value) : List (String × Value) :=
  if v.truthy then [(name, v)] else []

/-- The flag if it is set. -/
def whenSet (name : String) (v : Value) : List (String × Value) :=
  if v.truthy then [(name, .bool true)] else []

namespace Message

/-- The targets of a payload: none, or a list of texts. -/
def readTargets (targets : Option Value) : Except MessageFailure Value :=
  match targets with
  | none | some .null => .ok .null
  | some v =>
    match v.elements? with
    | some items =>
      if items.all Value.isText then .ok (.list items)
      else invalid "registration_ids must be a list of strings" (.text "targets")
    | none => invalid "registration_ids must be a list of strings" (.text "targets")

/-- The data of a payload: none, or a dictionary. -/
def readData (data : Option Value) : Except MessageFailure Value :=
  match data with
  | none | some .null => .ok .null
  | some v =>
    if v.entries?.isSome then .ok v else invalid "data must be a JSON object" (.text "data")

/-- The time to live of a payload. -/
def readTimeToLive (ttl : Value) : Except MessageFailure Value :=
  match ttl with
  | .int n => .ok (.int n)
  | _ => invalid "time_to_live must be an integer" (.text "time_to_live")

/-- The priority of a payload. -/
def readPriority (priority : Value) : Except MessageFailure Value :=
  match priority with
  | .text s => .ok (.text s)
  | _ => invalid "priority must be a string" (.text "priority")

/-- Reads a message. -/
def ofPayload (payload : Value) : Except MessageFailure Message := do
  let entries ← ofMisuse payload.lookupTable
  let targets ← readTargets (Entries.get? entries "registration_ids")
  let data ← readData (Entries.get? entries "data")
  let timeToLive ← readTimeToLive (Entries.getD entries "time_to_live" (.int 0))
  let priority ← readPriority (Entries.getD entries "priority" (.text ""))
  let notification ← ofMisuse (Notification.ofPayload (Entries.getD entries "notification" .null))
  .ok {
    targets
    collapseKey := Entries.getD entries "collapse_key" (.text "")
    notification := .notification notification
    data
    delayWhileIdle := Entries.getD entries "delay_while_idle" (.bool false)
    timeToLive
    priority
    packageName := Entries.getD entries "restricted_package_name" (.text "")
    dryRun := Entries.getD entries "dry_run" (.bool false) }

/-- The targets as a list, if there are any at all. -/
def targetList (m : Message) : Except Misuse Value :=
  match m.targets with
  | .null => .ok .null
  | targets => return .list (← targets.items)

/-- The notification as a dictionary. -/
def noticePayload (m : Message) : Except Misuse Value :=
  match m.notification with
  | .notification n => .ok n.toPayload
  | .other v => .error (.noAttribute v.qualifiedTypeName "to_dict")

/-- The data as an entry of its own, if there is any. -/
def dataFields (m : Message) : Except Misuse (List (String × Value)) :=
  if m.data.truthy then return [("data", ← m.data.toDict)] else .ok []

/-- The message as a dictionary. -/
def toPayload (m : Message) : Except Misuse Value := do
  let targets ← m.targetList
  let notification ← m.noticePayload
  let data ← m.dataFields
  .ok (.record <|
    [("registration_ids", targets), ("notification", notification)] ++
    whenPresent "collapse_key" m.collapseKey ++ data ++ whenSet "delay_while_idle" m.delayWhileIdle ++
    whenPresent "time_to_live" m.timeToLive ++ whenPresent "priority" m.priority ++
    whenPresent "restricted_package_name" m.packageName ++ whenSet "dry_run" m.dryRun)

end Message
end PushRelay
