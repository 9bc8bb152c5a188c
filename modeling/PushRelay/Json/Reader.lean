import PushRelay.Number.Numeral
import PushRelay.Octets.Encoding
import PushRelay.Value.Equality

/-!
# Reading JSON

A JSON text is read from text or from octets, whose encoding is detected. NaN
and the infinities are accepted as words, integers are exact, and of entries
with one key the last value stays. The first thing that does not fit ends the
reading, and is reported by line, column and position.
-/

namespace PushRelay.Json

/-- What does not fit. -/
inductive Mismatch where
  | mark
  | value
  | extra
  | name
  | colon
  | comma
  | unterminated
  | control
  | escape
  | unicodeEscape
  deriving DecidableEq, Repr

/-- How a mismatch is described. -/
def Mismatch.text : Mismatch → String
  | .mark => "Unexpected UTF-8 BOM (decode using utf-8-sig)"
  | .value => "Expecting value"
  | .extra => "Extra data"
  | .name => "Expecting property name enclosed in double quotes"
  | .colon => "Expecting ':' delimiter"
  | .comma => "Expecting ',' delimiter"
  | .unterminated => "Unterminated string starting at"
  | .control => "Invalid control character at"
  | .escape => "Invalid \\escape"
  | .unicodeEscape => "Invalid \\uXXXX escape"

/-- Why nothing could be read from some text. -/
inductive Fault where
  /-- Something does not fit where `rest` is left to be read. -/
  | mismatch (what : Mismatch) (rest : List Char)
  /-- An integer has too many digits. -/
  | longInteger (digits : Nat)
  deriving DecidableEq, Repr

/-- Why no value could be read. -/
inductive ReadError where
  | notText (type : String)
  | undecodable (e : Octets.DecodeError)
  | mismatch (what : Mismatch) (line column position : Nat)
  | longInteger (digits : Nat)
  deriving DecidableEq, Repr

namespace ReadError

/-- The error for a fault in a text. -/
def ofFault (whole : List Char) : Fault → ReadError
  | .longInteger digits => .longInteger digits
  | .mismatch what rest =>
    let before := whole.take (whole.length - rest.length)
    let lastLine := before.reverse.takeWhile (· != '\n')
    .mismatch what (before.count '\n' + 1) (lastLine.length + 1) before.length

/-- What the error says. -/
def message : ReadError → String
  | .notText type => s!"the JSON object must be str, bytes or bytearray, not {type}"
  | .undecodable e => e.message
  | .mismatch what line column position =>
    what.text ++ s!": line {line} column {column} (char {position})"
  | .longInteger digits => (Numeral.Error.tooLong digits).message

end ReadError

/-- Whether a character may stand between the parts of a text. -/
def isSpace (c : Char) : Bool := c == ' ' || c == '\t' || c == '\n' || c == '\r'

/-- What is left after the spaces in front. -/
def skip (cs : List Char) : List Char := cs.dropWhile isSpace

/-- What is left after the given beginning, if the text has it. -/
def after? : (beginning : List Char) → List Char → Option (List Char)
  | [], cs => some cs
  | _ :: _, [] => none
  | p :: ps, c :: cs => if p = c then after? ps cs else none

/-! ## Strings -/

/-- A part of a string: a character, or a UTF-16 unit given by its number. -/
inductive Part where
  | char (c : Char)
  | unit (n : Nat)
  deriving DecidableEq, Repr

/-- The unit that four hexadecimal digits give. -/
def unit? (a b c d : Char) : Option Nat := do
  let a ← Text.hexValue? a
  let b ← Text.hexValue? b
  let c ← Text.hexValue? c
  let d ← Text.hexValue? d
  some (((a * 16 + b) * 16 + c) * 16 + d)

/-- The character that a backslash and a letter stand for. -/
def escaped? (c : Char) : Option Char :=
  if c = '"' ∨ c = '\\' ∨ c = '/' then some c
  else if c = 'b' then some '\x08'
  else if c = 'f' then some '\x0c'
  else if c = 'n' then some '\n'
  else if c = 'r' then some '\r'
  else if c = 't' then some '\t'
  else none

/-- The parts of a string up to its closing quote; `opening` is the text from
its opening quote on. A unit by number must have something after it. -/
def readParts (opening : List Char) : List Char → Except Fault (List Part × List Char)
  | [] => .error (.mismatch .unterminated opening)
  | c :: rest =>
    if c = '"' then .ok ([], rest)
    else if c = '\\' then
      match rest with
      | [] => .error (.mismatch .unterminated opening)
      | e :: rest' =>
        if e = 'u' then
          match rest' with
          | h₁ :: h₂ :: h₃ :: h₄ :: rest'' =>
            match unit? h₁ h₂ h₃ h₄ with
            | some n =>
              if rest''.isEmpty then .error (.mismatch .unicodeEscape rest)
              else do
                let (parts, left) ← readParts opening rest''
                .ok (.unit n :: parts, left)
            | none => .error (.mismatch .unicodeEscape rest)
          | _ => .error (.mismatch .unicodeEscape rest)
        else
          match escaped? e with
          | some x => do
            let (parts, left) ← readParts opening rest'
            .ok (.char x :: parts, left)
          | none => .error (.mismatch .escape (c :: rest))
    else if c.toNat ≤ 0x1F then .error (.mismatch .control (c :: rest))
    else do
      let (parts, left) ← readParts opening rest
      .ok (.char c :: parts, left)

/-- Whether a unit begins a pair. -/
def isHigh (n : Nat) : Bool := 0xD800 ≤ n && n ≤ 0xDBFF

/-- Whether a unit ends a pair. -/
def isLow (n : Nat) : Bool := 0xDC00 ≤ n && n ≤ 0xDFFF

/-- The character of a unit by itself. -/
def unitChar (n : Nat) : Char := if isHigh n || isLow n then Octets.replacement else Char.ofNat n

/-- The characters that the parts of a string stand for: two units that form a
pair are one. -/
def joinParts : List Part → List Char
  | [] => []
  | .char c :: parts => c :: joinParts parts
  | .unit u :: .unit v :: parts =>
    if isHigh u && isLow v then
      Char.ofNat (0x10000 + (u - 0xD800) * 0x400 + (v - 0xDC00)) :: joinParts parts
    else unitChar u :: joinParts (.unit v :: parts)
  | .unit u :: parts => unitChar u :: joinParts parts

/-- A string, after its opening quote. -/
def readString (rest : List Char) : Except Fault (String × List Char) := do
  let (parts, left) ← readParts ('"' :: rest) rest
  .ok (String.ofList (joinParts parts), left)

/-! ## Atoms -/

/-- The digits before the point, of which the first is zero only if it is the
only one. -/
def wholeDigits? : List Char → Option (List Char × List Char)
  | [] => none
  | c :: cs =>
    if c = '0' then some ([c], cs)
    else if c.isDigit then some (Numeral.spanDigits (c :: cs))
    else none

/-- The digits after a point; a point without digits is not part of a
number. -/
def fractionDigits : List Char → List Char × List Char
  | [] => ([], [])
  | c :: cs =>
    if c = '.' then
      match Numeral.spanDigits cs with
      | ([], _) => ([], c :: cs)
      | found => found
    else ([], c :: cs)

/-- A number: an integer unless it has a fraction or an exponent. -/
def readNumber (cs : List Char) : Except Fault (Value × List Char) :=
  let (negative, digits) := match cs with
    | '-' :: rest => (true, rest)
    | _ => (false, cs)
  match wholeDigits? digits with
  | none => .error (.mismatch .value cs)
  | some (whole, rest) =>
    let (fraction, rest) := fractionDigits rest
    let (exponent, rest) := Numeral.spanExponent rest
    if fraction.isEmpty && exponent.isNone then
      if Numeral.maxDigits < whole.length then .error (.longInteger whole.length)
      else
        let n := Numeral.ofDigits whole
        .ok (.int (if negative then -n else n), rest)
    else .ok (.float (Numeral.double negative whole fraction (exponent.getD 0)), rest)

/-- The words that are values. -/
def words : List (List Char × Value) := [
  ("null".toList, .null), ("true".toList, .bool true), ("false".toList, .bool false),
  ("NaN".toList, .float .nan), ("Infinity".toList, .float (.infinite false)),
  ("-Infinity".toList, .float (.infinite true))]

/-- A word or a number. -/
def readAtom (cs : List Char) : Except Fault (Value × List Char) :=
  match words.findSome? fun (word, v) => (after? word cs).map fun rest => (v, rest) with
  | some found => .ok found
  | none => readNumber cs

/-! ## Values -/

mutual

/-- A value. Each step spends one unit of `fuel`. -/
def readValue : (fuel : Nat) → List Char → Except Fault (Value × List Char)
  | 0, cs => .error (.mismatch .value cs)
  | fuel + 1, cs =>
    match cs with
    | [] => .error (.mismatch .value cs)
    | c :: rest =>
      if c = '"' then do
        let (s, left) ← readString rest
        .ok (.text s, left)
      else if c = '[' then
        match after? [']'] (skip rest) with
        | some left => .ok (.list [], left)
        | none => do
          let (items, left) ← readItems fuel (skip rest)
          .ok (.list items, left)
      else if c = '\x7b' then
        match after? ['\x7d'] (skip rest) with
        | some left => .ok (.dict [], left)
        | none => do
          let (entries, left) ← readEntries fuel (skip rest)
          .ok (.dict (Entries.ofList entries), left)
      else readAtom cs

/-- The items of an array, at least one, up to its closing bracket. -/
def readItems : (fuel : Nat) → List Char → Except Fault (List Value × List Char)
  | 0, cs => .error (.mismatch .value cs)
  | fuel + 1, cs => do
    let (item, left) ← readValue fuel cs
    match skip left with
    | [] => .error (.mismatch .comma [])
    | c :: rest =>
      if c = ']' then .ok ([item], rest)
      else if c = ',' then do
        let (items, left) ← readItems fuel (skip rest)
        .ok (item :: items, left)
      else .error (.mismatch .comma (c :: rest))

/-- The entries of an object, at least one, up to its closing brace. -/
def readEntries : (fuel : Nat) → List Char → Except Fault (List (Value × Value) × List Char)
  | 0, cs => .error (.mismatch .value cs)
  | fuel + 1, cs =>
    match after? ['"'] cs with
    | none => .error (.mismatch .name cs)
    | some rest => do
      let (key, left) ← readString rest
      match after? [':'] (skip left) with
      | none => .error (.mismatch .colon (skip left))
      | some rest => do
        let (value, left) ← readValue fuel (skip rest)
        match skip left with
        | [] => .error (.mismatch .comma [])
        | c :: rest =>
          if c = '\x7d' then .ok ([(.text key, value)], rest)
          else if c = ',' then do
            let (entries, left) ← readEntries fuel (skip rest)
            .ok ((.text key, value) :: entries, left)
          else .error (.mismatch .comma (c :: rest))

end

/-- The value that a whole text holds. Every two steps of reading pass at
least one character. -/
def readWhole (cs : List Char) : Except Fault Value := do
  let (v, left) ← readValue (2 * cs.length + 2) (skip cs)
  match skip left with
  | [] => .ok v
  | rest => .error (.mismatch .extra rest)

/-- Reads a text. -/
def readChars (cs : List Char) : Except ReadError Value :=
  match readWhole cs with
  | .ok v => .ok v
  | .error fault => .error (.ofFault cs fault)

/-- Reads octets. -/
def readOctets (octets : List UInt8) : Except ReadError Value :=
  match Octets.decodeDetected octets with
  | .ok cs => readChars cs
  | .error e => .error (.undecodable e)

/-- Reads a value that is a text, which must not begin with a byte order mark,
or octets. -/
def read : Value → Except ReadError Value
  | .text s =>
    if s.toList.head? = some '\ufeff' then .error (.ofFault s.toList (.mismatch .mark s.toList))
    else readChars s.toList
  | .bytes octets => readOctets octets
  | v => .error (.notText v.typeName)

end PushRelay.Json
