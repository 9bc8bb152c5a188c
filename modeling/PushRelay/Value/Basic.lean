import PushRelay.Instant
import PushRelay.Number.Shortest
import PushRelay.Value.Knot

/-!
# Values

Payload data and message fields are dynamically typed: whatever a caller puts
into a message travels as a `Value`. A dictionary is the list of its entries
in the order in which their keys came in.
-/

namespace PushRelay

/-- Anything without structure of its own: which one it is, what its type is
called, and the texts that stand for it inside a container and for a reader. -/
structure Opaque where
  identity : Nat := 0
  typeName : String := "object"
  literal : String := "<object object>"
  text : String := literal
  deriving DecidableEq, Repr

/-- A dynamically typed value. A container that is held by what it holds is a
knot, together with the loose values that the containers of the knot hold. -/
inductive Value where
  | null
  | bool (b : Bool)
  | int (n : Int)
  | float (x : Binary64)
  | text (s : String)
  | bytes (octets : List UInt8)
  | instant (t : Instant)
  | object (o : Opaque)
  | list (items : List Value)
  | tuple (items : List Value)
  | set (items : List Value)
  | dict (entries : List (Value × Value))
  | knot (values : List Value) (k : Knot)
  deriving Repr, Inhabited

/-- The entries of a dictionary, in order. -/
abbrev Entries := List (Value × Value)

namespace Value

/-- Whether a value counts as present: not null, false, zero, or empty. -/
def truthy : Value → Bool
  | .null => false
  | .bool b => b
  | .int n => n != 0
  | .float x => !x.isZero
  | .text s => !s.isEmpty
  | .bytes octets => !octets.isEmpty
  | .instant _ => true
  | .object _ => true
  | .list items => !items.isEmpty
  | .tuple items => !items.isEmpty
  | .set items => !items.isEmpty
  | .dict entries => !entries.isEmpty
  | .knot .. => true

/-- What a value's type is called. -/
def typeName : Value → String
  | .null => "NoneType"
  | .bool _ => "bool"
  | .int _ => "int"
  | .float _ => "float"
  | .text _ => "str"
  | .bytes _ => "bytes"
  | .instant _ => "datetime"
  | .object o => o.typeName
  | .list _ => "list"
  | .tuple _ => "tuple"
  | .set _ => "set"
  | .dict _ => "dict"
  | .knot _ k => k.loop.typeName

/-- What a value's type is called together with the module it belongs to. -/
def qualifiedTypeName : Value → String
  | .instant _ => "datetime.datetime"
  | v => v.typeName

/-- The integer that a value is; the truth values are 0 and 1. -/
def toInt? : Value → Option Int
  | .bool b => some (if b then 1 else 0)
  | .int n => some n
  | _ => none

/-- Whether a value is a text. -/
def isText : Value → Bool
  | .text _ => true
  | _ => false

/-- What a strand of a knot leads to. A loose value that is not there is
null. -/
def follow (values : List Value) (k : Knot) : Strand → Value
  | .loose index => values.getD index .null
  | .tied index => .knot values (k.seenFrom index)

/-- The container that a knot is seen from, with the elements that it has. -/
def untied (values : List Value) (k : Knot) : Value :=
  match k.loop with
  | .list before held after => .list ((Strand.row before held after).map (follow values k))
  | .tuple before held after => .tuple ((Strand.row before held after).map (follow values k))
  | .dict before key held after => .dict <|
    (Strand.entries before key held after).map fun (key, strand) =>
      (values.getD key .null, follow values k strand)

/-- A knot untied at the container that it is seen from; anything else as it
is. -/
def opened : Value → Value
  | .knot values k => untied values k
  | v => v

/-- The list whose one element is itself. -/
def selfList : Value := .knot [] { first := .list [] 0 [] }

/-- The dictionary whose one entry, under `"self"`, is itself. -/
def selfDict : Value := .knot [.text "self"] { first := .dict [] 0 0 [] }

/-- The entries of a value that is a dictionary. -/
def entries? (v : Value) : Option Entries :=
  match v.opened with
  | .dict entries => some entries
  | _ => none

/-- The elements of a value that is a list. -/
def elements? (v : Value) : Option (List Value) :=
  match v.opened with
  | .list items => some items
  | _ => none

/-- Whether a value is the given text. -/
def isTextOf (name : String) : Value → Bool
  | .text s => s == name
  | _ => false

/-- A dictionary whose keys are the given texts. -/
def record (fields : List (String × Value)) : Value :=
  .dict (fields.map fun (name, v) => (.text name, v))

end Value

namespace Entries

/-- The value under a text key. -/
def get? (entries : Entries) (name : String) : Option Value :=
  (entries.find? fun (k, _) => k.isTextOf name).map (·.2)

/-- The value under a text key, or a default. -/
def getD (entries : Entries) (name : String) (default : Value) : Value :=
  (Entries.get? entries name).getD default

end Entries
end PushRelay
