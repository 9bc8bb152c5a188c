import PushRelay.Value.Misuse
import PushRelay.Value.Text

/-!
# Enumerations

A named set of texts, each with a name of its own. A member is found by its
text.
-/

namespace PushRelay

/-- A named enumeration: its members by name, each with its value. -/
structure Enumeration where
  name : String
  members : List (String × String)
  deriving Repr

/-- The member whose value equals the given one. -/
def Enumeration.find (e : Enumeration) (v : Value) : Except Misuse (String × String) :=
  match e.members.find? fun (_, value) => v.isTextOf value with
  | some member => .ok member
  | none => .error (.notMember v.literal e.name)

end PushRelay
