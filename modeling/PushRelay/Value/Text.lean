import PushRelay.Number.Numeral
import PushRelay.Text.Quoted
import PushRelay.Value.Basic

/-!
# The text of a value

`literal` shows a value with quotes and brackets, so that its type can be
told; `shown` is the same but for a text, which stands for itself, and an
instant, which is written for a reader.
-/

namespace PushRelay
namespace Value

/-- A text in quotes. -/
def quotedText (s : String) : String := String.ofList (Text.quoted s.toList)

/-- The literal of a value without parts. -/
def atomLiteral : Value → String
  | .null => "None"
  | .bool b => if b then "True" else "False"
  | .int n => toString n
  | .float x => x.text
  | .text s => quotedText s
  | .bytes octets => String.ofList (Text.quotedOctets octets)
  | .instant t => t.literal
  | .object o => o.literal
  | _ => ""

/-- A row of elements between brackets. -/
def listText (texts : List String) : String := "[" ++ ", ".intercalate texts ++ "]"

/-- The elements of a tuple; a single one has a comma of its own. -/
def tupleText : List String → String
  | [] => "()"
  | [x] => "(" ++ x ++ ",)"
  | x :: xs => "(" ++ ", ".intercalate (x :: xs) ++ ")"

/-- Entries, or elements of a set, between braces. -/
def braceText (texts : List String) : String := "\x7b" ++ ", ".intercalate texts ++ "\x7d"

/-- What stands for a container inside its own text. -/
def ellipsis : Loop → String
  | .list .. => "[...]"
  | .tuple .. => "(...)"
  | .dict .. => "\x7b...\x7d"

/-- The text of a container of a knot, while those at `shown` are being shown.
The loose values have the given texts. -/
def knotText (texts : List String) : Nat → List Nat → Knot → String
  | 0, _, k => ellipsis k.loop
  | fuel + 1, shown, k =>
    let text : Strand → String
      | .loose index => texts.getD index "None"
      | .tied index => knotText texts fuel (k.index :: shown) (k.seenFrom index)
    if shown.contains k.index then ellipsis k.loop
    else
      match k.loop with
      | .list before held after => listText ((Strand.row before held after).map text)
      | .tuple before held after => tupleText ((Strand.row before held after).map text)
      | .dict before key held after => braceText <|
        (Strand.entries before key held after).map fun (key, strand) =>
          text (.loose key) ++ ": " ++ text strand

mutual

/-- The text that shows a value's type as well. -/
def literal : Value → String
  | .list items => listText (literals items)
  | .tuple items => tupleText (literals items)
  | .set [] => "set()"
  | .set (x :: xs) => braceText (literal x :: literals xs)
  | .dict entries => braceText (entryLiterals entries)
  | .knot values k => knotText (literals values) k.size [] k
  | v => atomLiteral v

/-- The literals of several values. -/
def literals : List Value → List String
  | [] => []
  | x :: xs => literal x :: literals xs

/-- The literals of dictionary entries, key and value. -/
def entryLiterals : List (Value × Value) → List String
  | [] => []
  | (k, v) :: rest => (literal k ++ ": " ++ literal v) :: entryLiterals rest

end

/-- The text of a value for a reader. -/
def shown : Value → String
  | .text s => s
  | .instant t => t.dateTimeText ' '
  | .object o => o.text
  | v => v.literal

mutual

/-- Whether there is a whole number in a value that is too long to be
written. -/
def hasLong : Value → Bool
  | .int n => Numeral.isLong n
  | .list items => anyLong items
  | .tuple items => anyLong items
  | .set items => anyLong items
  | .dict entries => anyEntryLong entries
  | .knot values _ => anyLong values
  | _ => false

/-- Whether there is one in several values. -/
def anyLong : List Value → Bool
  | [] => false
  | x :: xs => hasLong x || anyLong xs

/-- Whether there is one in dictionary entries. -/
def anyEntryLong : List (Value × Value) → Bool
  | [] => false
  | (k, v) :: rest => hasLong k || hasLong v || anyEntryLong rest

end

/-- What an error made from `args` says: nothing, its one argument, or all of
them as a tuple. -/
def argumentsText : List Value → String
  | [] => ""
  | [v] => v.shown
  | args => (Value.tuple args).literal

end Value
end PushRelay
