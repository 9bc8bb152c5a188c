import PushRelay.Number.Binary64
import PushRelay.Text.Ascii
import PushRelay.Text.Blank
import PushRelay.Text.Digit
import PushRelay.Text.Quoted

/-!
# Numerals

Reading a whole number or a double from text. Blanks may stand around a
numeral, digits of any script count, and a single underscore may stand between
two digits.
-/

namespace PushRelay.Numeral

/-- Why a text is no numeral. -/
inductive Error where
  | notWhole (text : String)
  | notDouble (text : String)
  | tooLong (digits : Nat)
  deriving DecidableEq, Repr

/-- A whole number may have at most this many digits. -/
def maxDigits : Nat := 4300

/-- What the error says; of a long text only the beginning is shown. -/
def Error.message : Error → String
  | .notWhole text =>
    "invalid literal for int() with base 10: " ++ String.ofList ((Text.quoted text.toList).take 200)
  | .notDouble text =>
    "could not convert string to float: " ++ String.ofList (Text.quoted text.toList)
  | .tooLong digits =>
    s!"Exceeds the limit ({maxDigits} digits) for integer string conversion: value has {digits} " ++
      "digits; use sys.set_int_max_str_digits() to increase the limit"

/-- What is said of a whole number that has more digits and is to be written. -/
def tooLongToWrite : String :=
  s!"Exceeds the limit ({maxDigits} digits) for integer string conversion; " ++
    "use sys.set_int_max_str_digits() to increase the limit"

/-- Whether a whole number has too many digits to be written. -/
def isLong (n : Int) : Bool := maxDigits < (Nat.repr n.natAbs).length

/-! ## Digits -/

/-- The number that a run of ASCII digits denotes. -/
def ofDigits (ds : List Char) : Nat := ds.foldl (fun n c => 10 * n + (c.toNat - 48)) 0

/-- The digits at the front, and what follows them. -/
def spanDigits (cs : List Char) : List Char × List Char :=
  (cs.takeWhile Char.isDigit, cs.dropWhile Char.isDigit)

/-- A sign at the front, true for minus, and what follows it. -/
def spanSign : List Char → Bool × List Char
  | '+' :: cs => (false, cs)
  | '-' :: cs => (true, cs)
  | cs => (false, cs)

/-- An exponent at the front and what follows it; an incomplete one is none. -/
def spanExponent : List Char → Option Int × List Char
  | c :: cs =>
    if c = 'e' ∨ c = 'E' then
      let (negative, ds) := spanSign cs
      match spanDigits ds with
      | ([], _) => (none, c :: cs)
      | (ds, rest) =>
        let n : Int := ofDigits ds
        (some (if negative then -n else n), rest)
    else (none, c :: cs)
  | [] => (none, [])

/-- The double with the given digits before and after the point, and
exponent. -/
def double (negative : Bool) (whole fraction : List Char) (exponent : Int) : Binary64 :=
  Binary64.ofDecimal negative (ofDigits (whole ++ fraction)) (exponent - fraction.length)

/-! ## Reading -/

/-- The ASCII form of a text up to the first character that has none, which is
marked. -/
def asciiForm : List Char → List Char
  | [] => []
  | c :: cs =>
    if c.toNat < 0x7F then c :: asciiForm cs
    else if Text.isBlank c then ' ' :: asciiForm cs
    else
      match Text.digitValue? c with
      | some d => Text.hexDigit d :: asciiForm cs
      | none => ['?']

/-- The text with foreign blanks and digits as those of ASCII, and no blanks
at its ends. -/
def trimmed (cs : List Char) : List Char :=
  let cs := if cs.all Text.isAscii then cs else asciiForm cs
  ((cs.dropWhile Text.isAsciiBlank).reverse.dropWhile Text.isAsciiBlank).reverse

/-- Removes underscores, each of which must stand between two digits. -/
def joinDigits? : (afterDigit : Bool) → List Char → Option (List Char)
  | _, [] => some []
  | afterDigit, c :: cs =>
    if c = '_' then
      if afterDigit && cs.head?.any Char.isDigit then joinDigits? false cs else none
    else (joinDigits? c.isDigit cs).map (c :: ·)

/-- Reads a whole number. That it has too many digits is noticed before
anything that follows them. -/
def readWhole (text : String) : Except Error Int :=
  let (negative, cs) := spanSign (trimmed text.toList)
  let run := cs.takeWhile fun c => c.isDigit || c == '_'
  match joinDigits? false run with
  | none => .error (.notWhole text)
  | some ds =>
    if maxDigits < ds.length then .error (.tooLong ds.length)
    else if ds.isEmpty || run.length < cs.length then .error (.notWhole text)
    else .ok (if negative then -(ofDigits ds : Int) else ofDigits ds)

/-- Reads digits with at most one point among them, and an exponent. -/
def readDecimal? (negative : Bool) (cs : List Char) : Option Binary64 :=
  let (whole, rest) := spanDigits cs
  let (fraction, rest) := match rest with
    | '.' :: rest => spanDigits rest
    | rest => ([], rest)
  let (exponent, rest) := spanExponent rest
  if (whole.isEmpty && fraction.isEmpty) || !rest.isEmpty then none
  else some (double negative whole fraction (exponent.getD 0))

/-- Reads a double; the infinities and NaN are words, in any case. -/
def readDouble (text : String) : Except Error Binary64 :=
  match joinDigits? false (trimmed text.toList) with
  | none => .error (.notDouble text)
  | some cs =>
    let (negative, cs) := spanSign cs
    let word := String.ofList (cs.map Char.toLower)
    if word = "inf" ∨ word = "infinity" then .ok (.infinite negative)
    else if word = "nan" then .ok .nan
    else
      match readDecimal? negative cs with
      | some x => .ok x
      | none => .error (.notDouble text)

end PushRelay.Numeral
