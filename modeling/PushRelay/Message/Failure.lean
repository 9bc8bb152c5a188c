import PushRelay.Error

/-!
# Failures

Why working on a message fails: the relay refuses it, or one of its values is
not what it is used as.
-/

namespace PushRelay

/-- A refusal by the relay, or a misused value. -/
inductive MessageFailure where
  | refused (e : RelayError)
  | misused (e : Misuse)
  deriving Repr

namespace MessageFailure

/-- Whatever holds a misuse passes it on. -/
def ofMisuse {α : Type} : Except Misuse α → Except MessageFailure α
  | .ok a => .ok a
  | .error e => .error (.misused e)

/-- Refuses a message because of one of its fields. -/
def invalid {α : Type} (message : String) (field : Value) : Except MessageFailure α :=
  .error (.refused (.validation (.text message) field))

end MessageFailure
end PushRelay
