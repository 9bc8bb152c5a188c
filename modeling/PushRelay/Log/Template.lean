import PushRelay.Number.Fixed
import PushRelay.Number.Numeral
import PushRelay.Value.Equality
import PushRelay.Value.Text

/-!
# Templates

The message of a log record can be a template: a percent sign begins a place
that is filled with the next argument, or with the entry of a dictionary that
is named in parentheses. A place has flags, a width, a precision and a letter
that says how its value is shown.
-/

namespace PushRelay.Log

/-- Why a template cannot be filled. -/
inductive TemplateError where
  | notEnough
  | leftOver
  | needsMapping
  | keyNotIndex (type : String)
  | incomplete
  | incompleteKey
  | missingKey (literal : String)
  | sizeNotInteger
  | wideText
  | wideArgument
  | preciseText
  | preciseArgument
  | preciseNumber
  | noMemory
  | unknownLetter (letter : Char) (index : Nat)
  | notReal (letter : Char) (type : String)
  | notInteger (letter : Char) (type : String)
  | notNumber (type : String)
  | notCharacter
  | noSuchCharacter
  | infinite
  | undefinedNumber
  | tooLarge
  deriving DecidableEq, Repr

namespace TemplateError

/-- What the error is called. -/
def className : TemplateError → String
  | .incomplete | .incompleteKey | .unknownLetter .. | .undefinedNumber | .wideText | .preciseText =>
    "ValueError"
  | .missingKey _ => "KeyError"
  | .noSuchCharacter | .infinite | .tooLarge | .wideArgument | .preciseArgument | .preciseNumber =>
    "OverflowError"
  | .noMemory => "MemoryError"
  | _ => "TypeError"

/-- A letter as it is shown in an error. -/
def visible (letter : Char) : Char :=
  if 31 ≤ letter.toNat ∧ letter.toNat ≤ 126 then letter else '?'

/-- What the error says. -/
def message : TemplateError → String
  | .notEnough => "not enough arguments for format string"
  | .leftOver => "not all arguments converted during string formatting"
  | .needsMapping => "format requires a mapping"
  | .keyNotIndex type => s!"{type} indices must be integers or slices, not str"
  | .incomplete => "incomplete format"
  | .incompleteKey => "incomplete format key"
  | .missingKey literal => literal
  | .sizeNotInteger => "* wants int"
  | .wideText => "width too big"
  | .wideArgument => "Python int too large to convert to C ssize_t"
  | .preciseText => "precision too big"
  | .preciseArgument => "Python int too large to convert to C int"
  | .preciseNumber => "precision too large"
  | .noMemory => ""
  | .unknownLetter letter index =>
    "unsupported format character '" ++ String.singleton (visible letter) ++ "' (0x" ++
      String.ofList (Nat.toDigits 16 letter.toNat) ++ s!") at index {index}"
  | .notReal letter type =>
    "%" ++ String.singleton letter ++ s!" format: a real number is required, not {type}"
  | .notInteger letter type =>
    "%" ++ String.singleton letter ++ s!" format: an integer is required, not {type}"
  | .notNumber type => s!"must be real number, not {type}"
  | .notCharacter => "%c requires int or char"
  | .noSuchCharacter => "%c arg not in range(0x110000)"
  | .infinite => "cannot convert float infinity to integer"
  | .undefinedNumber => "cannot convert float NaN to integer"
  | .tooLarge => "int too large to convert to float"

end TemplateError

/-! ## Places -/

/-- A width or a precision: not given, given, or taken from the arguments. -/
inductive Size where
  | unset
  | given (n : Nat)
  | argument
  deriving DecidableEq, Repr

/-- A place to be filled. Without a letter the template ended too early. -/
structure Place where
  key : Option (List Char)
  flags : List Char
  width : Size
  precision : Size
  letter : Option Char
  deriving DecidableEq, Repr

/-- A part of a template: text, a place, whose letter is at `index`, or a key
without an end. -/
inductive Piece where
  | text (c : Char)
  | place (p : Place) (index : Nat)
  | openKey
  deriving DecidableEq, Repr

/-- The characters before the parenthesis that closes the `depth` open ones,
and those after it. -/
def splitKey : (depth : Nat) → List Char → Option (List Char × List Char)
  | _, [] => none
  | depth, c :: cs =>
    if c = ')' then
      match depth with
      | 0 => some ([], cs)
      | depth + 1 => (splitKey depth cs).map fun (key, rest) => (c :: key, rest)
    else (splitKey (if c = '(' then depth + 1 else depth) cs).map fun (key, rest) => (c :: key, rest)

/-- A size at the front. -/
def splitSize (cs : List Char) : Size × List Char :=
  match cs with
  | '*' :: rest => (.argument, rest)
  | cs =>
    match cs.takeWhile Char.isDigit with
    | [] => (.unset, cs)
    | ds => (.given (Numeral.ofDigits ds), cs.dropWhile Char.isDigit)

/-- A precision at the front; a point without digits is the precision zero. -/
def splitPrecision (cs : List Char) : Size × List Char :=
  match cs with
  | '.' :: rest =>
    match splitSize rest with
    | (.unset, rest) => (.given 0, rest)
    | found => found
  | cs => (.unset, cs)

/-- The rest of a place, after its key. -/
def splitPlace (key : Option (List Char)) (cs : List Char) : Place × List Char :=
  let isFlag c := c == '-' || c == '+' || c == ' ' || c == '#' || c == '0'
  let flags := cs.takeWhile isFlag
  let (width, rest) := splitSize (cs.dropWhile isFlag)
  let (precision, rest) := splitPrecision rest
  let rest := match rest with
    | c :: more => if c = 'h' ∨ c = 'l' ∨ c = 'L' then more else c :: more
    | [] => []
  (⟨key, flags, width, precision, rest.head?⟩, rest.drop 1)

/-- The piece that a percent sign begins, and how much of the text after the
sign it takes. `index` is the place of that text in the template. -/
def pieceAfter (index : Nat) (cs : List Char) : Piece × Nat :=
  match cs with
  | '%' :: _ => (.text '%', 1)
  | '(' :: rest =>
    match splitKey 0 rest with
    | none => (.openKey, cs.length)
    | some (key, rest) =>
      let (place, left) := splitPlace (some key) rest
      let taken := cs.length - left.length
      (.place place (index + taken - 1), taken)
  | cs =>
    let (place, left) := splitPlace none cs
    let taken := cs.length - left.length
    (.place place (index + taken - 1), taken)

/-- The pieces of the part of a template that begins at `index`. -/
def pieces (index : Nat) : List Char → List Piece
  | [] => []
  | c :: cs =>
    if c = '%' then
      let (piece, taken) := pieceAfter (index + 1) cs
      piece :: pieces (index + 1 + taken) (cs.drop taken)
    else .text c :: pieces (index + 1) cs
termination_by cs => cs.length
decreasing_by all_goals simp only [List.length_drop, List.length_cons]; omega

/-! ## Arguments -/

/-- What places are filled with: values one after the other, or a value that
has entries or elements to look up, with the value that is next until it is
used. -/
inductive Supply where
  | sequence (rest : List Value)
  | mapping (whole : Value) (next : Option Value)
  deriving Repr

/-- What a value gives to fill places with. A tuple gives its elements,
anything else itself. -/
def Supply.of (v : Value) : Supply :=
  match v.opened with
  | .tuple items => .sequence items
  | .dict _ | .list _ | .bytes _ => .mapping v (some v)
  | v => .sequence [v]

/-- The entry of a value that a name stands for. Only dictionaries have
names. -/
def entryNamed (whole : Value) (name : String) : Except TemplateError Value :=
  match whole.opened with
  | .list _ => .error (.keyNotIndex "list")
  | .bytes _ => .error (.keyNotIndex "byte")
  | whole =>
    match (whole.entries?).bind (Entries.get? · name) with
    | some v => .ok v
    | none => .error (.missingKey (Value.quotedText name))

/-- The next value. -/
def Supply.next : Supply → Except TemplateError (Value × Supply)
  | .sequence (v :: rest) => .ok (v, .sequence rest)
  | .mapping whole (some v) => .ok (v, .mapping whole none)
  | _ => .error .notEnough

/-- Makes the entry of this name the next value. -/
def Supply.select (key : Option (List Char)) (s : Supply) : Except TemplateError Supply :=
  match key with
  | none => .ok s
  | some key =>
    match s with
    | .sequence _ => .error .needsMapping
    | .mapping whole _ => return .mapping whole (some (← entryNamed whole (String.ofList key)))

/-- An integer from the arguments. -/
def Supply.nextSize (s : Supply) : Except TemplateError (Int × Supply) := do
  let (v, s) ← s.next
  match v.toInt? with
  | some n => .ok (n, s)
  | none => .error .sizeNotInteger

/-- A width, taken from the arguments if need be. -/
def Supply.width (size : Size) (s : Supply) : Except TemplateError (Option Int × Supply) :=
  match size with
  | .unset => .ok (none, s)
  | .given n => if n < 0x8000000000000000 then .ok (some n, s) else .error .wideText
  | .argument => do
    let (n, s) ← s.nextSize
    if -0x8000000000000000 ≤ n ∧ n < 0x8000000000000000 then .ok (some n, s)
    else .error .wideArgument

/-- A precision, taken from the arguments if need be. -/
def Supply.precision (size : Size) (s : Supply) : Except TemplateError (Option Int × Supply) :=
  match size with
  | .unset => .ok (none, s)
  | .given n => if n < 0x80000000 then .ok (some n, s) else .error .preciseText
  | .argument => do
    let (n, s) ← s.nextSize
    if -0x80000000 ≤ n ∧ n < 0x80000000 then .ok (some n, s) else .error .preciseArgument

/-! ## Filling -/

/-- How a place is laid out, its sizes being known. -/
structure Layout where
  letter : Char
  left : Bool
  plus : Bool
  blank : Bool
  alternate : Bool
  zero : Bool
  width : Nat
  precision : Option Nat
  deriving Repr

/-- The layout of a place. A negative width means the left side, a negative
precision none at all. -/
def Layout.of (flags : List Char) (letter : Char) (width precision : Option Int) : Layout where
  letter
  left := flags.contains '-' || width.any (· < 0)
  plus := flags.contains '+'
  blank := flags.contains ' '
  alternate := flags.contains '#'
  zero := flags.contains '0'
  width := (width.getD 0).natAbs
  precision := precision.map Int.toNat

/-- Puts a sign in front of a number and pads it to its width: with zeros
between sign or base mark and digits if asked for, with blanks otherwise.
`mark` is the length of the base mark. -/
def Layout.number (l : Layout) (mark : Nat) (cs : List Char) : List Char :=
  let (sign, cs) := match cs with
    | '-' :: rest => (['-'], rest)
    | cs => (if l.plus then ['+'] else if l.blank then [' '] else [], cs)
  let missing := l.width - (sign.length + cs.length)
  if l.left then sign ++ cs ++ List.replicate missing ' '
  else if l.zero then sign ++ cs.take mark ++ List.replicate missing '0' ++ cs.drop mark
  else List.replicate missing ' ' ++ sign ++ cs

/-- Cuts a text to its precision and pads it to its width. -/
def Layout.text (l : Layout) (cs : List Char) : List Char :=
  let cs := match l.precision with
    | some n => cs.take n
    | none => cs
  let padding := List.replicate (l.width - cs.length) ' '
  if l.left then cs ++ padding else padding ++ cs

/-- Pads a character to its width. -/
def Layout.character (l : Layout) (c : Char) : List Char :=
  let padding := List.replicate (l.width - 1) ' '
  if l.left then c :: padding else padding ++ [c]

/-- The digits of a number in some base. -/
def digitsIn (base n : Nat) : List Char := Nat.toDigits base n

/-- The mark of the base that a letter stands for. -/
def baseMark (letter : Char) : List Char :=
  if letter = 'x' ∨ letter = 'X' ∨ letter = 'o' then ['0', letter] else []

/-- An integer. Its precision is the least number of digits. -/
def Layout.integer (l : Layout) (n : Int) : Except TemplateError (List Char) :=
  if l.precision.any (0x80000000 - 4 < ·) then .error .preciseNumber else .ok (digitsOf n)
where
  digitsOf (n : Int) : List Char :=
    let base := if l.letter = 'x' ∨ l.letter = 'X' then 16 else if l.letter = 'o' then 8 else 10
    let digits := digitsIn base n.natAbs
    let digits := if l.letter = 'X' then digits.map Char.toUpper else digits
    let digits := List.replicate (l.precision.getD 0 - digits.length) '0' ++ digits
    let mark := if l.alternate then baseMark l.letter else []
    l.number mark.length ((if n < 0 then ['-'] else []) ++ mark ++ digits)

/-- No double has more significant digits than this. -/
def maxDigits : Nat := 1100

/-- A double. -/
def Layout.double (l : Layout) (x : Binary64) : List Char :=
  let precision := l.precision.getD 6
  let upper := l.letter.isUpper
  let body : List Char := match x with
    | .nan => "nan".toList
    | .infinite _ => "inf".toList
    | .finite _ m e =>
      let (n, d) := Binary64.magnitude m e
      match l.letter.toLower with
      | 'e' => Decimal.scientific l.alternate precision n d
      | 'g' => Decimal.general l.alternate (if l.alternate then precision else min precision maxDigits) n d
      | _ => Decimal.fixed l.alternate precision n d
  let body := if upper then body.map Char.toUpper else body
  let negative := match x with
    | .nan => false
    | .infinite negative | .finite negative _ _ => negative
  l.number 0 (if negative then '-' :: body else body)

/-- The integer that a value stands for where any number will do. -/
def wholeOf (letter : Char) (v : Value) : Except TemplateError Int :=
  match v with
  | .float .nan => .error .undefinedNumber
  | .float (.infinite _) => .error .infinite
  | .float x => .ok (x.truncate?.getD 0)
  | v =>
    match v.toInt? with
    | some n => .ok n
    | none => .error (.notReal letter v.qualifiedTypeName)

/-- The integer that a value is. -/
def integerOf (letter : Char) (v : Value) : Except TemplateError Int :=
  match v.toInt? with
  | some n => .ok n
  | none => .error (.notInteger letter v.qualifiedTypeName)

/-- The double that a value stands for. -/
def doubleOf (v : Value) : Except TemplateError Binary64 :=
  match v with
  | .float x => .ok x
  | v =>
    match v.toInt? with
    | some n =>
      match Binary64.ofQuotient n 1 with
      | .infinite _ => .error .tooLarge
      | x => .ok x
    | none => .error (.notNumber v.qualifiedTypeName)

/-- The character that a value stands for. -/
def characterOf (v : Value) : Except TemplateError Char :=
  match v with
  | .text s =>
    match s.toList with
    | [c] => .ok c
    | _ => .error .notCharacter
  | v =>
    match v.toInt? with
    | some n =>
      if n < 0 ∨ 0x10FFFF < n then .error .noSuchCharacter else .ok (Char.ofNat n.toNat)
    | none => .error .notCharacter

/-- The literal of a value with nothing left outside ASCII. -/
def asciiLiteral (v : Value) : List Char :=
  v.literal.toList.flatMap fun c => if Text.isAscii c then [c] else Text.numericEscape c.toNat

/-- A value as its place shows it; the letter of the place is at `index`. -/
def Layout.fill (l : Layout) (index : Nat) (v : Value) : Except TemplateError (List Char) :=
  if l.letter = 's' then .ok (l.text v.shown.toList)
  else if l.letter = 'r' then .ok (l.text v.literal.toList)
  else if l.letter = 'a' then .ok (l.text (asciiLiteral v))
  else if l.letter = 'd' ∨ l.letter = 'i' ∨ l.letter = 'u' then do l.integer (← wholeOf l.letter v)
  else if l.letter = 'x' ∨ l.letter = 'X' ∨ l.letter = 'o' then do l.integer (← integerOf l.letter v)
  else if ['e', 'E', 'f', 'F', 'g', 'G'].contains l.letter then return l.double (← doubleOf v)
  else if l.letter = 'c' then return l.character (← characterOf v)
  else .error (.unknownLetter l.letter index)

/-- Nothing can be wider than this. -/
def maxWidth : Nat := 0x800000000

/-- A value as its place shows it, if that is not too wide. -/
def Layout.fillWithin (l : Layout) (index : Nat) (v : Value) : Except TemplateError (List Char) :=
  if l.width ≤ maxWidth then l.fill index v
  else do
    let _ ← { l with width := 0 }.fill index v
    .error .noMemory

/-- Fills a place. -/
def Place.fill (p : Place) (index : Nat) (s : Supply) : Except TemplateError (List Char × Supply) := do
  let s ← s.select p.key
  let (width, s) ← s.width p.width
  let (precision, s) ← s.precision p.precision
  match p.letter with
  | none => .error .incomplete
  | some letter => do
    let (v, s) ← s.next
    let cs ← (Layout.of p.flags letter width precision).fillWithin index v
    .ok (cs, s)

/-- Fills the pieces of a template. Of a sequence of values none may be
left. -/
def fillPieces : List Piece → Supply → Except TemplateError (List Char)
  | [], .sequence (_ :: _) => .error .leftOver
  | [], _ => .ok []
  | .text c :: rest, s => return c :: (← fillPieces rest s)
  | .openKey :: _, .sequence _ => .error .needsMapping
  | .openKey :: _, .mapping .. => .error .incompleteKey
  | .place p index :: rest, s => do
    let (cs, s) ← p.fill index s
    return cs ++ (← fillPieces rest s)

/-- Fills a template with what a value gives. -/
def fillTemplate (template : String) (v : Value) : Except TemplateError String :=
  return String.ofList (← fillPieces (pieces 0 template.toList) (.of v))

end PushRelay.Log
