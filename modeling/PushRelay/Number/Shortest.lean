import PushRelay.Number.Binary64

/-!
# Shortest decimal text

The text of a double is the shortest decimal that reads back as the same
double: the fewest digits first, then the nearest decimal of that length.
Decimal exponents from `-4` to `15` are written positionally, the others with
an exponent of at least two digits.
-/

namespace PushRelay

/-- A decimal numeral `coefficient * 10 ^ exponent`. -/
structure Decimal where
  coefficient : Nat
  exponent : Int
  deriving DecidableEq, Repr

namespace Decimal

/-- The largest `d` with `10 ^ d ≤ num / den`, for a positive fraction. -/
def leadingPlace (num den : Nat) : Int :=
  let d : Int := ((Nat.repr num).length : Int) - (Nat.repr den).length
  let reached :=
    if 0 ≤ d then den * Nat.pow 10 d.toNat ≤ num else den ≤ num * Nat.pow 10 (-d).toNat
  if reached then d else d - 1

/-- The fraction `num / den` in units of `10 ^ k`. -/
def inUnits (num den : Nat) (k : Int) : Nat × Nat :=
  if 0 ≤ k then (num, den * Nat.pow 10 k.toNat) else (num * Nat.pow 10 (-k).toNat, den)

/-- Removes up to `fuel` trailing zeros of the coefficient. -/
def stripZeros : Nat → Decimal → Decimal
  | 0, x => x
  | fuel + 1, x =>
    if x.coefficient % 10 = 0 ∧ x.coefficient ≠ 0 then
      stripZeros fuel ⟨x.coefficient / 10, x.exponent + 1⟩
    else x

end Decimal

namespace Binary64

/-- Whether `c * 10 ^ k` rounds to the double `m * 2 ^ e`: it lies between the
midpoints to the two neighbouring doubles, the midpoints themselves included
when `m` is even. -/
def readsBack (m : Nat) (e : Int) (c : Nat) (k : Int) : Bool :=
  let (n, d) := magnitude 1 (e - 2)
  let (u, v) := Decimal.inUnits n d k
  let below := if m = Nat.pow 2 52 ∧ -1074 < e then 1 else 2
  let low := (4 * m - below) * u
  let high := (4 * m + 2) * u
  let x := c * v
  if m % 2 = 0 then low ≤ x && x ≤ high else low < x && x < high

/-- The best decimal of `digits` digits that reads back as `m * 2 ^ e`, if one
does: of the two decimals around the number the nearer, and the even one when
both are as near. -/
def decimalOf? (m : Nat) (e : Int) (digits : Nat) : Option Decimal :=
  let (num, den) := magnitude m e
  let k := Decimal.leadingPlace num den - digits + 1
  let (n, d) := Decimal.inUnits num den k
  let low := n / d
  let nearest := roundHalfEven n d
  if readsBack m e nearest k then some ⟨nearest, k⟩
  else if readsBack m e low k then some ⟨low, k⟩
  else if readsBack m e (low + 1) k then some ⟨low + 1, k⟩
  else none

/-- The shortest decimal that reads back as the nonzero double `m * 2 ^ e`;
seventeen digits always suffice. -/
def shortest (m : Nat) (e : Int) : Decimal :=
  match (List.range 17).findSome? fun i => decimalOf? m e (i + 1) with
  | some x => x.stripZeros 20
  | none => ⟨0, 0⟩

/-- An exponent as it is written: a sign and at least two digits. -/
def exponentText (e : Int) : List Char :=
  let digits := (Nat.repr e.natAbs).toList
  (if e < 0 then '-' else '+') :: (if digits.length < 2 then '0' :: digits else digits)

/-- A positive decimal as a double is written. -/
def decimalText (x : Decimal) : List Char :=
  let digits := (Nat.repr x.coefficient).toList
  let point : Int := digits.length + x.exponent
  if -4 < point ∧ point ≤ 16 then
    if point ≤ 0 then '0' :: '.' :: (List.replicate (-point).toNat '0' ++ digits)
    else if digits.length ≤ point.toNat then
      digits ++ List.replicate (point.toNat - digits.length) '0' ++ ['.', '0']
    else digits.take point.toNat ++ '.' :: digits.drop point.toNat
  else
    match digits with
    | [] => []
    | d :: rest =>
      d :: ((if rest.isEmpty then [] else '.' :: rest) ++ 'e' :: exponentText (point - 1))

/-- The text of a double. -/
def text : Binary64 → String
  | .nan => "nan"
  | .infinite negative => if negative then "-inf" else "inf"
  | .finite negative m e =>
    let body := if m = 0 then ['0', '.', '0'] else decimalText (shortest m e)
    String.ofList (if negative then '-' :: body else body)

end Binary64
end PushRelay
