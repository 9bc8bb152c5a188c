import PushRelay.Text.Case
import PushRelay.Text.Composition
import PushRelay.Text.Direction
import PushRelay.Text.Joining
import PushRelay.Text.Mark
import PushRelay.Text.Permitted
import PushRelay.Text.Quoted
import PushRelay.Url.Punycode

/-!
# Names of hosts

The name of a host is a row of labels. A label outside ASCII is held to the
rules for such names (RFC 5891 to 5893) and written in Punycode behind the
mark `xn--`; reading it back holds it to the same rules.
-/

namespace PushRelay.Url

/-- A label as its code points; one that is read from ASCII may have some that
are no characters. -/
abbrev Label := List Nat

/-- Why a text is not the name of a host. -/
inductive HostError where
  | emptyName
  | longName
  | emptyLabel
  | longLabel
  | nothingEncoded
  | finalHyphen
  | undecodable
  | notCanonical
  | notComposed
  | reservedHyphens
  | outerHyphen
  | initialMark
  | forbidden (point position : Nat) (label : Label)
  | outOfContext (point position : Nat) (label : Label)
  | strayJoiner (point position : Nat) (label : Label)
  | unknownNeighbour (point position : Nat) (label : Label)
  | unknownDirection (position : Nat) (label : Label)
  | firstDirection (label : Label)
  | strangeDirection (position : Nat) (fromRight : Bool)
  | mixedNumbers
  | finalDirection
  deriving DecidableEq, Repr

namespace HostError

/-- What the error is called. -/
def className : HostError → String
  | .forbidden .. => "InvalidCodepoint"
  | .outOfContext .. | .strayJoiner .. => "InvalidCodepointContext"
  | .unknownDirection .. | .firstDirection _ | .strangeDirection .. | .mixedNumbers | .finalDirection =>
    "IDNABidiError"
  | _ => "IDNAError"

/-- A code point as it is shown. -/
def pointText (n : Nat) : String :=
  let digits := (Nat.toDigits 16 n).map Char.toUpper
  "U+" ++ String.ofList (List.replicate (4 - digits.length) '0' ++ digits)

/-- A label as it is shown. -/
def labelText (label : Label) : String := String.ofList (Text.quotedPoints label)

/-- What the error says. -/
def message : HostError → String
  | .emptyName => "Empty domain"
  | .longName => "Domain too long"
  | .emptyLabel => "Empty Label"
  | .longLabel => "Label too long"
  | .nothingEncoded => "Malformed A-label, no Punycode eligible content found"
  | .finalHyphen => "A-label must not end with a hyphen"
  | .undecodable => "Invalid A-label"
  | .notCanonical => "A-label is not the canonical Punycode encoding of its U-label"
  | .notComposed => "Label must be in Normalization Form C"
  | .reservedHyphens => "Label has disallowed hyphens in 3rd and 4th position"
  | .outerHyphen => "Label must not start or end with a hyphen"
  | .initialMark => "Label begins with an illegal combining character"
  | .forbidden point position label =>
    s!"Codepoint {pointText point} at position {position} of {labelText label} not allowed"
  | .outOfContext point position label =>
    s!"Codepoint {pointText point} not allowed at position {position} in {labelText label}"
  | .strayJoiner point position label =>
    s!"Joiner {pointText point} not allowed at position {position} in {labelText label}"
  | .unknownNeighbour point position label =>
    s!"Unknown codepoint adjacent to joiner {pointText point} at position {position} in {labelText label}"
  | .unknownDirection position label =>
    s!"Unknown directionality in label {labelText label} at position {position}"
  | .firstDirection label =>
    s!"First codepoint in label {labelText label} must be directionality L, R or AL"
  | .strangeDirection position fromRight =>
    let way := if fromRight then "right-to-left" else "left-to-right"
    s!"Invalid direction for codepoint at position {position} in a {way} label"
  | .mixedNumbers => "Can not mix numeral types in a right-to-left label"
  | .finalDirection => "Label ends with illegal codepoint directionality"

end HostError

/-! ## The rules for labels -/

/-- The class of the marks that suppress a vowel, after which joiners may
stand. -/
def viramaClass : Nat := 9

/-- The zero width non-joiner. -/
def nonJoiner : Nat := 0x200C

/-- Whether a joiner fits between the code points before it, nearest first,
and those after it. -/
def joinerFits (joiner : Nat) (before after : Label) : Bool :=
  before.head?.any (fun n => Text.markClass n == viramaClass) ||
    (joiner == nonJoiner &&
      (before.dropWhile Text.isTransparent).head?.any Text.joinsNext &&
      (after.dropWhile Text.isTransparent).head?.any Text.joinsPrevious)

/-- Whether one of the other code points that depend on context fits between
those before it, nearest first, and those after it. -/
def contextFits (n : Nat) (before after : Label) : Bool :=
  let others (low high : Nat) := (before ++ after).any fun n => low ≤ n && n ≤ high
  if n = 0xB7 then before.head? == some 0x6C && after.head? == some 0x6C
  else if n = 0x375 then after.head?.any (Text.inRanges Text.greek)
  else if n = 0x5F3 ∨ n = 0x5F4 then before.head?.any (Text.inRanges Text.hebrew)
  else if n = 0x30FB then (before ++ after).any fun n => n != 0x30FB && Text.inRanges Text.japanese n
  else if 0x660 ≤ n ∧ n ≤ 0x669 then !others 0x6F0 0x6F9
  else if 0x6F0 ≤ n ∧ n ≤ 0x6F9 then !others 0x660 0x669
  else false

open Text (Direction direction)

/-- Checks the code points of a label from one on; `before` are those that
have been checked, nearest first. -/
def checkPoints (label : Label) : (before : Label) → Label → Except HostError Unit
  | _, [] => .ok ()
  | before, n :: rest =>
    let position := before.length + 1
    if Text.isPermitted n then checkPoints label (n :: before) rest
    else if Text.isJoiner n then
      if before.head?.any (direction · == .unknown) then .error (.unknownNeighbour n position label)
      else if joinerFits n before rest then checkPoints label (n :: before) rest
      else .error (.strayJoiner n position label)
    else if Text.isContextual n then
      if contextFits n before rest then checkPoints label (n :: before) rest
      else .error (.outOfContext n position label)
    else .error (.forbidden n position label)

/-- Whether a direction may occur in a label that is written from right to
left. -/
def fitsFromRight : Direction → Bool
  | .left | .unknown => false
  | _ => true

/-- Whether a direction may occur in a label that is written from left to
right. -/
def fitsFromLeft : Direction → Bool
  | .right | .arabicLetter | .arabicNumber | .unknown => false
  | _ => true

/-- Whether a label may end in a direction. -/
def endsLabel (fromRight : Bool) : Direction → Bool
  | .right | .arabicLetter | .arabicNumber => fromRight
  | .left => !fromRight
  | .number => true
  | _ => false

/-- Checks the directions in a label from a position on. `ends` tells whether
the label could end before it, and `numbers` which numbers there have been. -/
def checkDirections (fromRight : Bool) : (position : Nat) → (ends : Bool) →
    (numbers : Option Direction) → List Direction → Except HostError Unit
  | _, ends, _, [] => if ends then .ok () else .error .finalDirection
  | position, ends, numbers, d :: rest =>
    if !(if fromRight then fitsFromRight d else fitsFromLeft d) then
      .error (.strangeDirection position fromRight)
    else
      let ends := endsLabel fromRight d || (ends && d == .mark)
      if fromRight && (d == .number || d == .arabicNumber) then
        if numbers.any (· != d) then .error .mixedNumbers
        else checkDirections fromRight (position + 1) ends (some d) rest
      else checkDirections fromRight (position + 1) ends numbers rest

/-- Checks the directions in a label, if any of them is from right to left. -/
def checkBidi (label : Label) : Except HostError Unit :=
  let directions := label.map direction
  if directions.contains .unknown then
    .error (.unknownDirection (directions.idxOf .unknown + 1) label)
  else if directions.any fun d => d == .right || d == .arabicLetter || d == .arabicNumber then
    match directions.head? with
    | some .right | some .arabicLetter => checkDirections true 1 false none directions
    | some .left => checkDirections false 1 false none directions
    | _ => .error (.firstDirection label)
  else .ok ()

/-- The hyphen. -/
def hyphen : Nat := 0x2D

/-- Checks a label in all respects. -/
def checkLabel (label : Label) : Except HostError Unit := do
  if label.isEmpty then .error .emptyLabel
  if 254 < label.length then .error .longLabel
  if !Text.isComposed label then .error .notComposed
  if (label.drop 2).take 2 == [hyphen, hyphen] then .error .reservedHyphens
  if label.head? == some hyphen || label.getLast? == some hyphen then .error .outerHyphen
  if label.head?.any Text.isMark then .error .initialMark
  checkPoints label [] label
  checkBidi label

/-! ## Encoding and decoding -/

/-- The mark in front of an encoded label. -/
def encodedMark : List Char := ['x', 'n', '-', '-']

/-- The label that the digits after the mark of an encoded label stand for. -/
def decodeDigits (digits : List Char) : Except HostError (List Char) :=
  if digits.isEmpty then .error .nothingEncoded
  else if digits.getLast? == some '-' then .error .finalHyphen
  else
    match Punycode.decode? digits with
    | none => .error .undecodable
    | some label => do
      checkLabel label
      if Punycode.encode label == digits then .ok (label.map Char.ofNat) else .error .notCanonical

/-- The label that a label of ASCII stands for. -/
def decodeLabel (label : List Char) : Except HostError (List Char) :=
  let label := label.map Char.toLower
  if label.take 4 == encodedMark then decodeDigits (label.drop 4)
  else do
    checkLabel (label.map Char.toNat)
    .ok label

/-- A label in ASCII. -/
def encodeLabel (label : List Char) : Except HostError (List Char) := do
  let encoded ←
    if label.all Text.isAscii then do
      let _ ← decodeLabel label
      .ok label
    else do
      let points := label.map Char.toNat
      checkLabel points
      .ok (encodedMark ++ Punycode.encode points)
  if 63 < encoded.length then .error .longLabel else .ok encoded

/-- Whether a character separates labels. -/
def isDot (c : Char) : Bool := c == '.' || c == '\u3002' || c == '\uff0e' || c == '\uff61'

/-- The labels of a name; there is one more of them than dots. -/
def labels : List Char → List (List Char)
  | [] => [[]]
  | c :: cs =>
    if isDot c then [] :: labels cs
    else
      match labels cs with
      | label :: rest => (c :: label) :: rest
      | [] => [[c]]

/-- Takes a name label by label. A dot at its end stays. -/
def eachLabel (f : List Char → Except HostError (List Char)) (name : List Char) :
    Except HostError (List Char) := do
  if 254 < name.length then .error .longName
  let parts := labels name
  if parts == [[]] then .error .emptyName
  let final := parts.getLast? == some []
  let done ← (if final then parts.dropLast else parts).mapM f
  .ok (['.'].intercalate (if final then done ++ [[]] else done))

/-- The name of a host in ASCII. -/
def encodeName (name : List Char) : Except HostError (List Char) := do
  let encoded ← eachLabel encodeLabel name
  let longest := if encoded.getLast? == some '.' then 254 else 253
  if longest < encoded.length then .error .longName else .ok encoded

/-- The name of a host that a name in ASCII stands for. -/
def decodeName (name : List Char) : Except HostError (List Char) := eachLabel decodeLabel name

end PushRelay.Url
