import PushRelay.Value.Equality
import PushRelay.Value.Misuse
import PushRelay.Value.Text

/-!
# The shape of a value

How many elements a value has, which they are, and what comes of copying it
into a list or a dictionary. A dictionary's elements are its keys, a text's
its characters, and those of octets their numbers.
-/

namespace PushRelay
namespace Value

/-- The number of elements. -/
def length : Value → Except Misuse Nat
  | .text s => .ok s.length
  | .bytes octets => .ok octets.length
  | .list items | .tuple items | .set items => .ok items.length
  | .dict entries => .ok entries.length
  | .knot _ k => .ok k.loop.width
  | v => .error (.noLength v.qualifiedTypeName)

/-- The elements in order, if the value has any to go through. -/
def items? (v : Value) : Option (List Value) :=
  match v.opened with
  | .text s => some (s.toList.map fun c => .text (String.singleton c))
  | .bytes octets => some (octets.map fun b => .int b.toNat)
  | .list items | .tuple items | .set items => some items
  | .dict entries => some (entries.map (·.1))
  | _ => none

/-- The elements in order. -/
def items (v : Value) : Except Misuse (List Value) :=
  match v.items? with
  | some items => .ok items
  | none => .error (.notIterable v.qualifiedTypeName)

/-- The entry that the element at `index` of a list of pairs stands for. -/
def entryAt (index : Nat) (pair : Value) : Except Misuse (Value × Value) :=
  match pair.items? with
  | none => .error (.entryNotSequence index)
  | some [k, v] =>
    match k.unhashableType? with
    | some type => .error (.unhashable type)
    | none => .ok (k, v)
  | some items => .error (.entryLength index items.length)

/-- The entries that a list of pairs, counted from `index`, stands for. -/
def entriesFrom : Nat → List Value → Except Misuse (List (Value × Value))
  | _, [] => .ok []
  | index, pair :: rest => do
    let entry ← entryAt index pair
    let others ← entriesFrom (index + 1) rest
    .ok (entry :: others)

/-- A copy as a dictionary: of a dictionary, or of anything whose elements are
pairs. -/
def toDict (v : Value) : Except Misuse Value :=
  match v.entries? with
  | some entries => .ok (.dict entries)
  | none => do
    let pairs ← v.items
    let entries ← entriesFrom 0 pairs
    .ok (.dict (Entries.ofList entries))

/-- The element at an index, or the entry of a dictionary under that number. -/
def elementAt (index : Nat) (v : Value) : Except Misuse Value :=
  let pick (kind : String) (items : List Value) : Except Misuse Value :=
    match items[index]? with
    | some item => .ok item
    | none => .error (.outOfRange kind)
  match v.opened with
  | .text _ => do pick "string index" (← v.items)
  | .bytes _ => do pick "index" (← v.items)
  | .list items => pick "list index" items
  | .tuple items => pick "tuple index" items
  | .dict entries =>
    match entries.find? fun (key, _) => key.equals (.int index) with
    | some (_, item) => .ok item
    | none => .error (.noKey (toString index))
  | v => .error (.notIndexed v.qualifiedTypeName)

/-- Whether the integer `n` is above the value. -/
def isBelow (n : Int) (v : Value) : Except Misuse Bool :=
  match v with
  | .bool b => .ok (decide ((if b then 1 else 0) < n))
  | .int m => .ok (decide (m < n))
  | .float x => .ok (x.belowInt n)
  | v => .error (.notOrdered ">" "int" v.qualifiedTypeName)

/-- A value inside a sentence. -/
def printed (v : Value) : Except Misuse String :=
  if v.hasLong then .error .longInteger else .ok v.shown

/-- Whether the second list begins with the first. -/
def startsWith : List Char → List Char → Bool
  | [], _ => true
  | c :: cs, d :: ds => c == d && startsWith cs ds
  | _ :: _, [] => false

/-- Whether the first list of characters occurs within the second. -/
def occursIn (part : List Char) : List Char → Bool
  | [] => part.isEmpty
  | c :: cs => startsWith part (c :: cs) || occursIn part cs

/-- Whether a text is among the elements of a value; among those of a text are
all of its parts. -/
def containsText (v : Value) (s : String) : Except Misuse Bool :=
  match v with
  | .text whole => .ok (occursIn s.toList whole.toList)
  | .bytes _ => .error (.notOctets "str")
  | v =>
    match v.items? with
    | some items => .ok (items.any (·.isTextOf s))
    | none => .error (.notContainer v.qualifiedTypeName)

/-- The texts among elements counted from `index`, which must all be texts. -/
def textsFrom : Nat → List Value → Except Misuse (List String)
  | _, [] => .ok []
  | index, .text s :: rest => return s :: (← textsFrom (index + 1) rest)
  | index, v :: _ => .error (.joinedNonText index v.qualifiedTypeName)

/-- The elements of a value, which must be texts, with a comma between. -/
def joined (v : Value) : Except Misuse String :=
  match v.items? with
  | none => .error .notJoinable
  | some items => return ", ".intercalate (← textsFrom 0 items)

end Value
end PushRelay
