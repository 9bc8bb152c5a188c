import PushRelay.Message.Wire

/-!
# Translation

From one message for many targets to one wire message for each. What a user
taps on and the tag of a notification have no place in the part that every
platform shows; they go into the block of their platform, and so does the
priority.
-/

namespace PushRelay.Message

/-- The notification, whose fields must be there. A text has something called
`title` of its own, so there it is the second field that is missed. -/
def notificationOf (notice : Notice) : Except Misuse Notification :=
  match notice with
  | .notification n => .ok n
  | .other v =>
    match v with
    | .text _ | .bytes _ => .error (.noAttribute v.qualifiedTypeName "body")
    | v => .error (.noAttribute v.qualifiedTypeName "title")

/-- The wire message for one target. -/
def wireFor (m : Message) (n : Notification) (target : Value) : WireMessage where
  token := target
  collapseKey := m.collapseKey
  notification := ⟨n.title, n.body⟩
  data := m.data
  delayWhileIdle := m.delayWhileIdle
  timeToLive := m.timeToLive
  packageName := m.packageName
  dryRun := m.dryRun
  android := ⟨⟨n.clickAction, n.tag⟩, m.priority⟩

/-- Translates a message for one target. -/
def translate (message : Option Message) (target : Value) : Except Misuse WireMessage :=
  match message with
  | none => .error (.noAttribute "NoneType" "collapse_key")
  | some m => return m.wireFor (← notificationOf m.notification) target

/-- Translates a message for each of its targets, in their order. -/
def translateAll (m : Message) : Except Misuse (List WireMessage) := do
  let targets ← m.targets.items
  targets.mapM fun target => translate (some m) target

end PushRelay.Message
