import PushRelay.Number.Numeral
import PushRelay.Value.Text

/-!
# Writing JSON

The JSON text of a value, in ASCII: a character outside the printable part of
ASCII is escaped by its UTF-16 units, items are separated by a comma and a
space, keys from values by a colon and a space. Tuples are written as arrays,
and keys that are numbers, truth values or null as the text of those.

`write` refuses what JSON has no form for; `writeLenient` writes such a value
as the text it is shown by.
-/

namespace PushRelay.Json

/-- Why a value has no JSON text. -/
inductive WriteError where
  | unserializable (type : String)
  | badKey (type : String)
  | circular
  | longInteger
  deriving DecidableEq, Repr

namespace WriteError

/-- What the error is called. -/
def className : WriteError → String
  | .unserializable _ | .badKey _ => "TypeError"
  | .circular | .longInteger => "ValueError"

/-- What the error says. -/
def message : WriteError → String
  | .unserializable type => s!"Object of type {type} is not JSON serializable"
  | .badKey type => s!"keys must be str, int, float, bool or None, not {type}"
  | .circular => "Circular reference detected"
  | .longInteger => Numeral.tooLongToWrite

end WriteError

/-- A UTF-16 unit as an escape. -/
def unitEscape (unit : Nat) : List Char := '\\' :: 'u' :: Text.hexText 4 unit

/-- A character inside a JSON text. -/
def escapeChar (c : Char) : List Char :=
  if c = '"' then ['\\', '"']
  else if c = '\\' then ['\\', '\\']
  else if c = '\n' then ['\\', 'n']
  else if c = '\r' then ['\\', 'r']
  else if c = '\t' then ['\\', 't']
  else if c = '\x0c' then ['\\', 'f']
  else if c = '\x08' then ['\\', 'b']
  else if 0x20 ≤ c.toNat ∧ c.toNat ≤ 0x7E then [c]
  else if c.toNat ≤ 0xFFFF then unitEscape c.toNat
  else
    let n := c.toNat - 0x10000
    unitEscape (0xD800 + n / 0x400) ++ unitEscape (0xDC00 + n % 0x400)

/-- A text between double quotes. -/
def textLiteral (cs : List Char) : List Char := '"' :: (cs.flatMap escapeChar ++ ['"'])

/-- The digits of an integer. -/
def intText (n : Int) : Except WriteError (List Char) :=
  let digits := Nat.repr n.natAbs
  if Numeral.maxDigits < digits.length then .error .longInteger
  else .ok (if n < 0 then '-' :: digits.toList else digits.toList)

/-- A double; NaN and the infinities are words. -/
def floatText : Binary64 → List Char
  | .nan => "NaN".toList
  | .infinite negative => if negative then "-Infinity".toList else "Infinity".toList
  | x => x.text.toList

/-- A truth value. -/
def boolText (b : Bool) : List Char := if b then "true".toList else "false".toList

/-- The text that a key is written as. -/
def keyText : Value → Except WriteError (List Char)
  | .text s => .ok s.toList
  | .float x => .ok (floatText x)
  | .bool b => .ok (boolText b)
  | .null => .ok "null".toList
  | .int n => intText n
  | k => .error (.badKey k.qualifiedTypeName)

/-- A value that JSON has no form for. -/
def foreignText (lenient : Bool) (v : Value) : Except WriteError (List Char) :=
  if lenient then .ok (textLiteral v.shown.toList) else .error (.unserializable v.typeName)

/-- What went wrong, if anything did. -/
def failure? {α : Type} : Except WriteError α → Option WriteError
  | .ok _ => none
  | .error e => some e

/-- What goes wrong in a container of a knot before the first container that it
holds. The loose values are written with the given failures. -/
def errorAhead (values : List Value) (failures : List (Option WriteError)) (l : Loop) :
    Option WriteError :=
  let loose (index : Nat) : Option WriteError := failures.getD index none
  let key (index : Nat) : Option WriteError := failure? (keyText (values.getD index .null))
  match l with
  | .list before _ _ | .tuple before _ _ => before.findSome? loose
  | .dict before held _ _ =>
    (before.findSome? fun (index, value) => (key index).or (loose value)).or (key held)

/-- Why a knot is not written: the containers are entered one in the other, and
if nothing else goes wrong on the way, one of them is met again. -/
def knotError (values : List Value) (failures : List (Option WriteError)) (k : Knot) :
    WriteError :=
  (k.firstAlong (errorAhead values failures) k.size).getD .circular

mutual

/-- The characters of a value. -/
def chars (lenient : Bool) : Value → Except WriteError (List Char)
  | .null => .ok "null".toList
  | .bool b => .ok (boolText b)
  | .int n => intText n
  | .float x => .ok (floatText x)
  | .text s => .ok (textLiteral s.toList)
  | .list items => do .ok ('[' :: (← itemChars lenient items) ++ [']'])
  | .tuple items => do .ok ('[' :: (← itemChars lenient items) ++ [']'])
  | .dict entries => do .ok ('\x7b' :: (← entryChars lenient entries) ++ ['\x7d'])
  | .knot values k => .error (knotError values (charFailures lenient values) k)
  | v => foreignText lenient v

/-- The characters of array items. -/
def itemChars (lenient : Bool) : List Value → Except WriteError (List Char)
  | [] => .ok []
  | x :: xs => do
    let first ← chars lenient x
    let rest ← moreItemChars lenient xs
    .ok (first ++ rest)

/-- The characters of further array items. -/
def moreItemChars (lenient : Bool) : List Value → Except WriteError (List Char)
  | [] => .ok []
  | x :: xs => do
    let first ← chars lenient x
    let rest ← moreItemChars lenient xs
    .ok (',' :: ' ' :: first ++ rest)

/-- The characters of object entries. -/
def entryChars (lenient : Bool) : List (Value × Value) → Except WriteError (List Char)
  | [] => .ok []
  | (k, v) :: es => do
    let key ← keyText k
    let value ← chars lenient v
    let rest ← moreEntryChars lenient es
    .ok (textLiteral key ++ ':' :: ' ' :: value ++ rest)

/-- The characters of further object entries. -/
def moreEntryChars (lenient : Bool) : List (Value × Value) → Except WriteError (List Char)
  | [] => .ok []
  | (k, v) :: es => do
    let key ← keyText k
    let value ← chars lenient v
    let rest ← moreEntryChars lenient es
    .ok (',' :: ' ' :: textLiteral key ++ ':' :: ' ' :: value ++ rest)

/-- What goes wrong in writing each of several values. -/
def charFailures (lenient : Bool) : List Value → List (Option WriteError)
  | [] => []
  | x :: xs => failure? (chars lenient x) :: charFailures lenient xs

end

/-- The JSON text of a value. -/
def write (v : Value) : Except WriteError String := return String.ofList (← chars false v)

/-- The JSON text of a value, in which whatever JSON has no form for is shown
as a text. -/
def writeLenient (v : Value) : Except WriteError String := return String.ofList (← chars true v)

end PushRelay.Json
