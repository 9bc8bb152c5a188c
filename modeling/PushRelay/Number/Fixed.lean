import PushRelay.Number.Shortest

/-!
# Decimal text with a given number of digits

The text of a nonnegative fraction with fixed places, in exponent form, or in
whichever of the two is the shorter reading of a given precision. All round
the exact value, a half going to the even digit.
-/

namespace PushRelay
namespace Decimal

/-- The digits of `n`, with zeros in front up to `width`. -/
def paddedDigits (width n : Nat) : List Char :=
  let digits := (Nat.repr n).toList
  List.replicate (width - digits.length) '0' ++ digits

/-- A whole part and a fraction, with a point between when there is a fraction
or `keepPoint` asks for one. -/
def joinPoint (keepPoint : Bool) (whole fraction : List Char) : List Char :=
  if fraction.isEmpty && !keepPoint then whole else whole ++ '.' :: fraction

/-- `num / den` with exactly `places` digits after the point. -/
def fixed (keepPoint : Bool) (places num den : Nat) : List Char :=
  let digits := paddedDigits (places + 1) (roundHalfEven (num * Nat.pow 10 places) den)
  let whole := digits.length - places
  joinPoint keepPoint (digits.take whole) (digits.drop whole)

/-- `num / den` rounded to `places + 1` significant digits: their coefficient,
and the place of the first of them. Zero has place zero. -/
def significant (places num den : Nat) : Nat × Int :=
  if num = 0 then (0, 0)
  else
    let lead := leadingPlace num den
    let (n, d) := inUnits num den (lead - places)
    let c := roundHalfEven n d
    if c = Nat.pow 10 (places + 1) then (Nat.pow 10 places, lead + 1) else (c, lead)

/-- `num / den` in exponent form, with `places` digits after the point. -/
def scientific (keepPoint : Bool) (places num den : Nat) : List Char :=
  let (c, lead) := significant places num den
  let digits := paddedDigits (places + 1) c
  joinPoint keepPoint (digits.take 1) (digits.drop 1) ++ 'e' :: Binary64.exponentText lead

/-- Drops the zeros that end a fraction, and the point if nothing is left
after it. -/
def trimFraction (cs : List Char) : List Char :=
  if cs.contains '.' then
    let kept := cs.reverse.dropWhile (· == '0')
    (if kept.head? == some '.' then kept.drop 1 else kept).reverse
  else cs

/-- `num / den` to `precision` significant digits: positional when the leading
digit's place is at least `-4` and below the precision, in exponent form
otherwise, and with no zeros at the end of the fraction unless `keepZeros`
asks for them. -/
def general (keepZeros : Bool) (precision num den : Nat) : List Char :=
  let precision := max precision 1
  let (c, lead) := significant (precision - 1) num den
  if -4 ≤ lead ∧ lead < precision then
    let body := fixed keepZeros (precision - 1 - lead).toNat num den
    if keepZeros then body else trimFraction body
  else
    let digits := paddedDigits precision c
    let body := joinPoint keepZeros (digits.take 1) (digits.drop 1)
    (if keepZeros then body else trimFraction body) ++ 'e' :: Binary64.exponentText lead

end Decimal

namespace Binary64

/-- The double with a whole number of units, rounded half to even. -/
def wholeText : Binary64 → String
  | .nan => "nan"
  | .infinite negative => if negative then "-inf" else "inf"
  | .finite negative m e =>
    let (n, d) := magnitude m e
    let body := Decimal.fixed false 0 n d
    String.ofList (if negative then '-' :: body else body)

end Binary64
end PushRelay
