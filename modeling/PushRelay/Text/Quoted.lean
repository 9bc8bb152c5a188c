import PushRelay.Text.Ascii
import PushRelay.Text.Digit
import PushRelay.Text.Printable

/-!
# Quoted text

How a text or a run of octets is written between quotes: in single quotes, or
in double quotes when it holds a single quote and no double one. The quote and
the backslash are escaped by a backslash, and so is whatever is not printable.
-/

namespace PushRelay.Text

/-- The quote that a text is put in. -/
def quoteFor (cs : List Char) : Char :=
  if cs.contains '\'' && !cs.contains '"' then '"' else '\''

/-- An escape that names a character by its number, in two, four or eight
hexadecimal digits. -/
def numericEscape (n : Nat) : List Char :=
  if n ≤ 0xFF then '\\' :: 'x' :: hexText 2 n
  else if n ≤ 0xFFFF then '\\' :: 'u' :: hexText 4 n
  else '\\' :: 'U' :: hexText 8 n

/-- One character inside quotes. -/
def quotedChar (quote : Char) (c : Char) : List Char :=
  if c == quote || c == '\\' then ['\\', c]
  else if c == '\t' then ['\\', 't']
  else if c == '\n' then ['\\', 'n']
  else if c == '\r' then ['\\', 'r']
  else if isPrintable c then [c]
  else numericEscape c.toNat

/-- Whether a code point is one half of a surrogate pair, which is no
character by itself. -/
def isSurrogate (n : Nat) : Bool := 0xD800 ≤ n && n ≤ 0xDFFF

/-- Code points between quotes. -/
def quotedPoints (ns : List Nat) : List Char :=
  let quote := quoteFor (ns.map Char.ofNat)
  let shown (n : Nat) : List Char :=
    if isSurrogate n then numericEscape n else quotedChar quote (Char.ofNat n)
  quote :: (ns.flatMap shown ++ [quote])

/-- A text between quotes. -/
def quoted (cs : List Char) : List Char :=
  let quote := quoteFor cs
  quote :: (cs.flatMap (quotedChar quote) ++ [quote])

/-- One character inside quotes, with nothing left outside ASCII. -/
def asciiQuotedChar (quote : Char) (c : Char) : List Char :=
  if isAscii c then quotedChar quote c else numericEscape c.toNat

/-- Octets between quotes: those of ASCII as their characters, the others by
number. -/
def quotedOctets (octets : List UInt8) : List Char :=
  let cs := octets.map fun b => Char.ofNat b.toNat
  let quote := quoteFor cs
  'b' :: quote :: (cs.flatMap (asciiQuotedChar quote) ++ [quote])

end PushRelay.Text
