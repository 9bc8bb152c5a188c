import PushRelay.Error
import PushRelay.Json.Writer
import PushRelay.Message.Payload
import PushRelay.Message.Validation

/-!
# Wire messages

A message for a single target in the form that the service takes. What only
concerns one platform has a block of its own.
-/

namespace PushRelay

/-- The part of a notification that every platform shows. -/
structure WireNotification where
  title : Value := .text ""
  body : Value := .text ""
  deriving Repr

/-- The part of a notification that only concerns one platform. -/
structure AndroidNotification where
  clickAction : Value := .text ""
  tag : Value := .text ""
  deriving Repr

/-- What only concerns one platform. -/
structure AndroidBlock where
  notification : AndroidNotification := {}
  priority : Value := .text ""
  deriving Repr

/-- A message for one target. -/
structure WireMessage where
  token : Value
  collapseKey : Value := .text ""
  notification : WireNotification := {}
  data : Value := .null
  delayWhileIdle : Value := .bool false
  timeToLive : Value := .int 0
  packageName : Value := .text ""
  dryRun : Value := .bool false
  android : AndroidBlock := {}
  deriving Repr

/-- The notification as a dictionary. -/
def WireNotification.toDict (n : WireNotification) : Value :=
  .record (whenPresent "title" n.title ++ whenPresent "body" n.body)

/-- The notification as a dictionary. -/
def AndroidNotification.toDict (n : AndroidNotification) : Value :=
  .record (whenPresent "click_action" n.clickAction ++ whenPresent "tag" n.tag)

/-- The block as a dictionary. -/
def AndroidBlock.toDict (b : AndroidBlock) : Value :=
  .record (("notification", b.notification.toDict) :: whenPresent "priority" b.priority)

/-- The notification that the given fields make. -/
def WireNotification.ofArguments (named : List (String × Value)) : Except Misuse WireNotification := do
  let default : WireNotification := {}
  let given ← Parameter.bind "WireNotification.__init__"
    [⟨"title", some default.title⟩, ⟨"body", some default.body⟩] [] named
  let get name := (given.lookup name).getD .null
  .ok ⟨get "title", get "body"⟩

/-- The notification that the given fields make. -/
def AndroidNotification.ofArguments (named : List (String × Value)) :
    Except Misuse AndroidNotification := do
  let default : AndroidNotification := {}
  let given ← Parameter.bind "AndroidNotification.__init__"
    [⟨"click_action", some default.clickAction⟩, ⟨"tag", some default.tag⟩] [] named
  let get name := (given.lookup name).getD .null
  .ok ⟨get "click_action", get "tag"⟩

/-- The block that the given fields make; its notification is given apart from
the others. -/
def AndroidBlock.ofArguments (named : List (String × Value)) (notification : AndroidNotification) :
    Except Misuse AndroidBlock := do
  let default : AndroidBlock := {}
  let given ← Parameter.bind "AndroidConfig.__init__" [⟨"priority", some default.priority⟩] [] named
  .ok ⟨notification, (given.lookup "priority").getD .null⟩

namespace WireMessage

/-- The message as a dictionary, without the fields that hold nothing. -/
def toDict (m : WireMessage) : Value :=
  .record <|
    [("token", m.token)] ++ whenPresent "collapse_key" m.collapseKey ++
    [("notification", m.notification.toDict)] ++ whenPresent "data" m.data ++
    whenSet "delay_while_idle" m.delayWhileIdle ++ whenPresent "time_to_live" m.timeToLive ++
    whenPresent "restricted_package_name" m.packageName ++ whenSet "dry_run" m.dryRun ++
    [("android", m.android.toDict)]

/-- The message inside the envelope that the service expects. -/
def envelope (m : WireMessage) : Value := .record [("message", m.toDict)]

/-- The body of the request that carries the message. -/
def encode (m : WireMessage) : Except RelayError String :=
  match Json.write m.envelope with
  | .ok text => .ok text
  | .error e => .error (Message.unserializable e)

/-- The message that the given fields make; its two blocks are given apart
from the others. -/
def ofArguments (named : List (String × Value)) (notification : WireNotification)
    (android : AndroidBlock) : Except Misuse WireMessage := do
  let parameters : List (Parameter Value) := [
    ⟨"token", none⟩, ⟨"collapse_key", some (.text "")⟩, ⟨"data", some .null⟩,
    ⟨"delay_while_idle", some (.bool false)⟩, ⟨"time_to_live", some (.int 0)⟩,
    ⟨"restricted_package_name", some (.text "")⟩, ⟨"dry_run", some (.bool false)⟩]
  let given ← Parameter.bind "WireMessage.__init__" parameters [] named
  let get name := (given.lookup name).getD .null
  .ok {
    token := get "token"
    collapseKey := get "collapse_key"
    notification
    data := get "data"
    delayWhileIdle := get "delay_while_idle"
    timeToLive := get "time_to_live"
    packageName := get "restricted_package_name"
    dryRun := get "dry_run"
    android }

end WireMessage
end PushRelay
