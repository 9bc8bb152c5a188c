import PushRelay.Error
import PushRelay.Value.Equality

/-!
# Messages

A message in the form that applications write: one push request for any number
of targets. Its fields hold whatever the application put there; only
`Message.Validation` judges them.
-/

namespace PushRelay

/-- What is shown to the user. -/
structure Notification where
  title : Value := .text ""
  body : Value := .text ""
  clickAction : Value := .text ""
  tag : Value := .text ""
  deriving Repr

/-- What an application put in the place of a notification. -/
inductive Notice where
  | notification (n : Notification)
  | other (v : Value)
  deriving Repr

/-- A push request for many targets. -/
structure Message where
  targets : Value
  collapseKey : Value := .text ""
  notification : Notice := .notification {}
  data : Value := .null
  delayWhileIdle : Value := .bool false
  timeToLive : Value := .int 0
  priority : Value := .text ""
  packageName : Value := .text ""
  dryRun : Value := .bool false
  deriving Repr

namespace Notification

/-- The fields by name. -/
def fields (n : Notification) : List (String × Value) := [
  ("title", n.title), ("body", n.body), ("click_action", n.clickAction), ("tag", n.tag)]

/-- The notification that the given fields make. -/
def ofArguments (named : List (String × Value)) : Except Misuse Notification := do
  let default : Notification := {}
  let parameters := default.fields.map fun (name, v) => Parameter.mk name (some v)
  let given ← Parameter.bind "Notification.__init__" parameters [] named
  let get name := (given.lookup name).getD .null
  .ok ⟨get "title", get "body", get "click_action", get "tag"⟩

/-- Whether all fields are equal. -/
def equals (a b : Notification) : Bool :=
  a.title.equals b.title && a.body.equals b.body && a.clickAction.equals b.clickAction &&
    a.tag.equals b.tag

end Notification

/-- Whether two notices are equal. -/
def Notice.equals : Notice → Notice → Bool
  | .notification a, .notification b => a.equals b
  | .other a, .other b => a.equals b
  | _, _ => false

namespace Message

/-- The fields by name, apart from the notification. -/
def fields (m : Message) : List (String × Value) := [
  ("targets", m.targets), ("collapse_key", m.collapseKey), ("data", m.data),
  ("delay_while_idle", m.delayWhileIdle), ("time_to_live", m.timeToLive), ("priority", m.priority),
  ("restricted_package_name", m.packageName), ("dry_run", m.dryRun)]

/-- A message that carries some data to the given targets. -/
def ofData (data : Value) (targets : List Value) : Message := { targets := .list targets, data }

/-- The message that the given fields make. -/
def ofArguments (named : List (String × Value)) (notification : Notice) : Except Misuse Message := do
  let default : Message := { targets := .null }
  let parameters := (default.fields ++ [("notification", Value.null)]).map fun (name, v) =>
    Parameter.mk name (if name == "targets" then none else some v)
  let given ← Parameter.bind "LegacyMessage.__init__" parameters [] named
  let get name := (given.lookup name).getD .null
  .ok {
    targets := get "targets"
    collapseKey := get "collapse_key"
    notification
    data := get "data"
    delayWhileIdle := get "delay_while_idle"
    timeToLive := get "time_to_live"
    priority := get "priority"
    packageName := get "restricted_package_name"
    dryRun := get "dry_run" }

/-- Whether all fields are equal. -/
def equals (a b : Message) : Bool :=
  a.notification.equals b.notification && Value.equalsAll (a.fields.map (·.2)) (b.fields.map (·.2))

end Message
end PushRelay
