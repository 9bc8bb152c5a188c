import PushRelay.Octets.Encoding
import PushRelay.Url.Punycode

/-!
# Texts in Punycode

Octets whose last hyphen separates the characters of ASCII from the digits
that tell which others are to be inserted. What cannot be read ends the
insertions.
-/

namespace PushRelay.Octets.Punycode

open Url.Punycode (adapt number?)

/-- Inserts what the digits tell into a text, as `Url.Punycode.insertFrom?`
does; but a number that cannot be read is the end, and a question mark takes
the place of a character beyond the last one. -/
def insertLossy : (fuel : Nat) → (text : List Nat) → (point place bias : Nat) → (first : Bool) →
    List Char → List Nat
  | 0, text, _, _, _, _, _ => text
  | _, text, _, _, _, _, [] => text
  | fuel + 1, text, point, place, bias, first, digits =>
    match number? bias 0 1 0 digits with
    | none => text
    | some (delta, rest) =>
      let count := text.length + 1
      let total := place + delta
      let point := point + total / count
      let point := if 0x10FFFF < point then '?'.toNat else point
      let place := total % count
      insertLossy fuel (text.take place ++ point :: text.drop place) point (place + 1)
        (adapt delta first count) false rest

/-- The octets in front of the last hyphen, and those behind it; all of them
if there is none. -/
def parts (octets : List UInt8) : List UInt8 × List UInt8 :=
  let digits := (octets.reverse.takeWhile (·.toNat != 0x2D)).reverse
  (octets.take (octets.length - digits.length - 1), digits)

/-- Decodes octets as far as they can be read. Those behind the last hyphen
must be ASCII; if they are not, the answer tells the place of the first that
is not. -/
def decodeLossy (octets : List UInt8) : Except (Nat × UInt8) (List Char) :=
  let (basic, digits) := parts octets
  match digits.findIdx? (0x80 ≤ ·.toNat) with
  | some place => .error (place, digits[place]?.getD 0)
  | none =>
    let text := basic.map fun b => if b.toNat < 0x80 then b.toNat else replacement.toNat
    .ok ((insertLossy digits.length text 0x80 0 72 true (digits.map fun b => Char.ofNat b.toNat)).map
      Char.ofNat)

/-- Decodes octets if all of them can be read. -/
def decode? (octets : List UInt8) : Option (List Char) :=
  if octets.all (·.toNat < 0x80) then
    (Url.Punycode.decode? (octets.map fun b => Char.ofNat b.toNat)).map (·.map Char.ofNat)
  else none

end PushRelay.Octets.Punycode
