import PushRelay.Number.Numeral
import PushRelay.Octets.CharsetName
import PushRelay.Text.Blank
import PushRelay.Text.Case
import PushRelay.Text.Digit
import PushRelay.Value.Misuse

/-!
# Content types

A content type is a row of parts with semicolons between, each a name and
possibly a value. A semicolon within double quotes does not end a part. All
parts but the first may be segments of a value that is spread over several of
them (RFC 2231): a star and possibly a number follow the name then, and a
second star tells that octets are quoted by percent signs. Such a value may
begin with the character set it is in.
-/

namespace PushRelay.Http

/-! ## Parts -/

/-- Whether the text that ends here, given in reverse, is within double
quotes: the number of its quotes that no backslash precedes is odd. -/
def withinQuotes : List Char → Bool
  | [] => false
  | ['"'] => true
  | '"' :: c :: cs => if c = '\\' then withinQuotes cs else !withinQuotes (c :: cs)
  | _ :: cs => withinQuotes cs

/-- The parts of a content type; `done` are the characters of the first part
so far, in reverse. A semicolon that nothing precedes ends a part as well. -/
def splitParts : (done : List Char) → List Char → List (List Char)
  | done, [] => [done.reverse]
  | done, c :: cs =>
    if c = ';' ∧ !withinQuotes done then done.reverse :: splitParts [] cs
    else splitParts (c :: done) cs

/-- A part of a content type. -/
structure Part where
  name : List Char
  value : List Char
  deriving DecidableEq, Repr

/-- The part that a text is. A name is in lower case if a value follows it. -/
def Part.read (text : List Char) : Part :=
  if text.contains '=' then
    ⟨Text.lower (Text.strip (text.takeWhile (· != '='))),
      Text.strip ((text.dropWhile (· != '=')).drop 1)⟩
  else ⟨Text.strip text, []⟩

/-- A text with one backslash for every two in a row. -/
def unescape : List Char → List Char
  | '\\' :: '\\' :: cs => '\\' :: unescape cs
  | c :: cs => c :: unescape cs
  | [] => []

/-- A text without the backslashes that are in front of double quotes. -/
def unescapeQuotes : List Char → List Char
  | '\\' :: '"' :: cs => '"' :: unescapeQuotes cs
  | c :: cs => c :: unescapeQuotes cs
  | [] => []

/-- A value without the quotes or angle brackets around it. -/
def unquoteValue (value : List Char) : List Char :=
  if value.length ≤ 1 then value
  else if value.head? == some '"' && value.getLast? == some '"' then
    unescapeQuotes (unescape (value.drop 1).dropLast)
  else if value.head? == some '<' && value.getLast? == some '>' then (value.drop 1).dropLast
  else value

/-! ## Values of several parts -/

/-- Why the character set of a content type cannot be told. -/
inductive ContentTypeError where
  /-- The number of a segment has too many digits. -/
  | number (e : Numeral.Error)
  /-- The segments of a value are numbered in part. -/
  | unordered (e : Misuse)
  /-- A name of a character set contains a zero. -/
  | zero
  /-- The value is not to be read in its character set. -/
  | undecodable (charset : String) (e : Octets.CharsetError)
  deriving DecidableEq, Repr

namespace ContentTypeError

/-- What the error is called. -/
def className : ContentTypeError → String
  | .number _ | .zero => "ValueError"
  | .unordered e => e.className
  | .undecodable _ e => e.className

/-- What the error says. -/
def message : ContentTypeError → String
  | .number e => e.message
  | .unordered e => e.message
  | .zero => "embedded null character"
  | .undecodable charset e =>
    s!"decoding with '{charset}' codec failed (" ++ e.className ++ ": " ++ e.message ++ ")"

end ContentTypeError

/-- A segment of a value. -/
structure Segment where
  number : Option Nat
  text : List Char
  /-- Whether octets are quoted by percent signs. -/
  quoted : Bool
  deriving DecidableEq, Repr

/-- A value, and the character set that it has been declared to be in. -/
structure PartValue where
  text : List Char
  /-- The character set, if the value has been written by octets. Its name may
  be missing. -/
  charset : Option (Option (List Char)) := none
  deriving DecidableEq, Repr

/-- Whether a character can be part of the name of a value that has
segments. -/
def isNameChar (c : Char) : Bool := c.isAlphanum || c == '_'

/-- The name of a value and the digits of a number that the name of a segment
consists of. -/
def segmentName? (name : List Char) : Option (List Char × List Char) :=
  let base := name.takeWhile isNameChar
  match base, name.dropWhile isNameChar with
  | [], _ => none
  | base, '*' :: rest =>
    let digits := rest.takeWhile Char.isDigit
    match digits, rest.dropWhile Char.isDigit with
    | digits, [] => some (base, digits)
    | _ :: _, ['*'] => some (base, digits)
    | _, _ => none
  | _, _ => none

/-- The number that digits tell, if there are any. -/
def segmentNumber (digits : List Char) : Except ContentTypeError (Option Nat) :=
  if digits.isEmpty then .ok none
  else if Numeral.maxDigits < digits.length then .error (.number (.tooLong digits.length))
  else .ok (some (Numeral.ofDigits digits))

/-- Values by name, those of single parts and those of segments, both in the
order in which the names come first. -/
structure Values where
  single : List (List Char × PartValue) := []
  segmented : List (List Char × List Segment) := []

/-- Adds a segment to those of its name. -/
def addSegment (name : List Char) (segment : Segment) :
    List (List Char × List Segment) → List (List Char × List Segment)
  | [] => [(name, [segment])]
  | (other, segments) :: rest =>
    if other = name then (other, segments ++ [segment]) :: rest
    else (other, segments) :: addSegment name segment rest

/-- Adds a part to the values. -/
def Values.add (v : Values) (p : Part) : Except ContentTypeError Values :=
  let text := unquoteValue p.value
  match segmentName? p.name with
  | none => .ok { v with single := v.single ++ [(p.name, { text })] }
  | some (name, digits) => do
    let number ← segmentNumber digits
    let segment : Segment := ⟨number, text, p.name.getLast? == some '*'⟩
    .ok { v with segmented := addSegment name segment v.segmented }

/-- Adds parts to the values. -/
def Values.addAll (v : Values) : List Part → Except ContentTypeError Values
  | [] => .ok v
  | p :: ps => do (← v.add p).addAll ps

/-- What the number of a segment is called in a complaint about it. -/
def numberType (s : Segment) : String := if s.number.isSome then "int" else "NoneType"

/-- Whether a segment comes before another one, or is the same. Numbers
decide, and texts if they are equal. -/
def Segment.le (a b : Segment) : Bool :=
  if a.number != b.number then a.number.getD 0 < b.number.getD 0
  else if a.text != b.text then a.text < b.text
  else !a.quoted || b.quoted

/-- The segments in order. Either all of them have a number or none has. -/
def ordered (segments : List Segment) : Except ContentTypeError (List Segment) :=
  match segments with
  | [] => .ok []
  | first :: _ =>
    match segments.find? fun s => s.number.isSome != first.number.isSome with
    | some other => .error (.unordered (.notOrdered "<" (numberType other) (numberType first)))
    | none => .ok (segments.mergeSort Segment.le)

/-- A text in which a character stands for each octet that was quoted. -/
def unquoteChars : List Char → List Char
  | '%' :: a :: b :: rest =>
    match Text.hexValue? a, Text.hexValue? b with
    | some x, some y => Char.ofNat (16 * x + y) :: unquoteChars rest
    | _, _ => '%' :: unquoteChars (a :: b :: rest)
  | c :: cs => c :: unquoteChars cs
  | [] => []

/-- The text of a segment, in which a character stands for an octet where
octets were quoted. -/
def Segment.plainText (s : Segment) : List Char := if s.quoted then unquoteChars s.text else s.text

/-- A text with a backslash in front of each backslash and each double
quote. -/
def escapeQuotes (cs : List Char) : List Char :=
  cs.flatMap fun c => if c = '\\' ∨ c = '"' then ['\\', c] else [c]

/-- The value that starts with a character set and a language, each with an
apostrophe behind it; or without either of them. -/
def declaredValue (text : List Char) : PartValue :=
  let charset := text.takeWhile (· != '\'')
  match text.dropWhile (· != '\'') with
  | [] => ⟨text, some none⟩
  | _ :: rest =>
    match rest.dropWhile (· != '\'') with
    | [] => ⟨text, some none⟩
    | _ :: text => ⟨text, some (some (escapeQuotes charset))⟩

/-- The value that segments make. -/
def joined (segments : List Segment) : Except ContentTypeError PartValue := do
  let segments ← ordered segments
  let text := segments.flatMap Segment.plainText
  .ok (if segments.any (·.quoted) then declaredValue text else { text })

/-- The values that segments make, by name. -/
def joinedAll :
    List (List Char × List Segment) → Except ContentTypeError (List (List Char × PartValue))
  | [] => .ok []
  | (name, segments) :: rest => do
    let value ← joined segments
    .ok ((name, value) :: (← joinedAll rest))

/-- The values of a content type by name. The first part is never a segment;
values of single parts come before those of segments. -/
def values (contentType : List Char) : Except ContentTypeError (List (List Char × PartValue)) := do
  match (splitParts [] contentType).map Part.read with
  | [] => .ok []
  | first :: rest =>
    let v : Values := { single := [(first.name, { text := unquoteValue first.value })] }
    let v ← v.addAll rest
    .ok (v.single ++ (← joinedAll v.segmented))

/-! ## Character sets -/

/-- The octets of a text: one for each character that is one of the first 256,
and for another character the escape that gives its number. -/
def rawOctets (cs : List Char) : List UInt8 :=
  cs.flatMap fun c =>
    let chars :=
      if c.toNat ≤ 0xFF then [c]
      else if c.toNat ≤ 0xFFFF then '\\' :: 'u' :: Text.hexText 4 c.toNat
      else '\\' :: 'U' :: Text.hexText 8 c.toNat
    chars.map fun c => UInt8.ofNat c.toNat

/-- The text of a value. A value that cannot be read in its character set is
taken as it is. -/
def PartValue.decoded (v : PartValue) : Except ContentTypeError (List Char) :=
  match v.charset with
  | none => .ok v.text
  | some name? =>
    let name := (name?.filter (!·.isEmpty)).getD "us-ascii".toList
    if name.contains '\x00' then .error .zero
    else
      match Octets.Charset.named? name with
      | none => .ok v.text
      | some charset =>
        match charset.decodeStrict (rawOctets v.text) with
        | .ok text? => .ok (text?.getD v.text)
        | .error e => .error (.undecodable (String.ofList name) e)

/-- The name of the character set that a content type gives in ASCII, in lower
case. -/
def charsetName? (contentType : List Char) : Except ContentTypeError (Option (List Char)) := do
  match (← values contentType).find? fun (name, _) => Text.lower name == "charset".toList with
  | none => .ok none
  | some (_, value) =>
    let name ← value.decoded
    .ok (if name.all Text.isAscii then some (name.map Char.toLower) else none)

/-- The character set that a content type gives, if it is known. -/
def charset? (contentType : List Char) : Except ContentTypeError (Option Octets.Charset) := do
  match ← charsetName? contentType with
  | none => .ok none
  | some name => if name.contains '\x00' then .error .zero else .ok (Octets.Charset.named? name)

end PushRelay.Http
