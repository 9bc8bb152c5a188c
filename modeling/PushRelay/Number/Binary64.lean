/-!
# Double-precision numbers

The IEEE 754 doubles as exact dyadic rationals, and the one rounding that all
arithmetic on them is defined by: `ofRatio` gives the double nearest to a
quotient, a tie going to the even mantissa.
-/

namespace PushRelay

/-- A double-precision number. The finite ones are `± mantissa * 2 ^
exponent`. Every function here builds them in canonical form: the exponent is
at least `-1074`, the mantissa is below `2 ^ 53`, and it is at least `2 ^ 52`
unless the exponent is `-1074`. -/
inductive Binary64 where
  | nan
  | infinite (negative : Bool)
  | finite (negative : Bool) (mantissa : Nat) (exponent : Int)
  deriving DecidableEq, Repr, Inhabited

/-- The natural number nearest to `num / den`, a half going to the even
neighbour. -/
def roundHalfEven (num den : Nat) : Nat :=
  let q := num / den
  let r := num % den
  if den < 2 * r ∨ (2 * r = den ∧ q % 2 = 1) then q + 1 else q

namespace Binary64

/-- The fraction `num / den` divided by `2 ^ e`. -/
def scaled (num den : Nat) (e : Int) : Nat × Nat :=
  if 0 ≤ e then (num, den * Nat.pow 2 e.toNat) else (num * Nat.pow 2 (-e).toNat, den)

/-- The exponent at which `num / den` has its leading bit at weight `2 ^ 52`,
or `-1074` if that is larger. The estimate from the two binary logarithms is
at most one too small. -/
def unitExponent (num den : Nat) : Int :=
  let e := max (-1074) ((Nat.log2 num : Int) - (Nat.log2 den : Int) - 53)
  let (n, d) := scaled num den e
  if Nat.pow 2 53 ≤ n / d then e + 1 else e

/-- The double nearest to `num / den`, for a positive `den`. -/
def ofRatio (negative : Bool) (num den : Nat) : Binary64 :=
  if num = 0 then .finite negative 0 (-1074)
  else
    let e := unitExponent num den
    let (n, d) := scaled num den e
    let m := roundHalfEven n d
    let (m, e) := if m = Nat.pow 2 53 then (Nat.pow 2 52, e + 1) else (m, e)
    if 971 < e then .infinite negative else .finite negative m e

/-- The double nearest to `num / den` for a signed numerator; zero comes out
positive. -/
def ofQuotient (num : Int) (den : Nat) : Binary64 := ofRatio (decide (num < 0)) num.natAbs den

/-- The double nearest to `digits * 10 ^ exponent`. Exponents so far out that
every double is passed or missed are settled by the number of digits, without
building the power of ten. -/
def ofDecimal (negative : Bool) (digits : Nat) (exponent : Int) : Binary64 :=
  if digits = 0 then .finite negative 0 (-1074)
  else
    let places : Int := (Nat.repr digits).length + exponent
    if 400 < places then .infinite negative
    else if places < -400 then .finite negative 0 (-1074)
    else if 0 ≤ exponent then ofRatio negative (digits * Nat.pow 10 exponent.toNat) 1
    else ofRatio negative digits (Nat.pow 10 (-exponent).toNat)

/-- The magnitude of a finite double as a quotient of naturals. -/
def magnitude (mantissa : Nat) (exponent : Int) : Nat × Nat :=
  if 0 ≤ exponent then (mantissa * Nat.pow 2 exponent.toNat, 1)
  else (mantissa, Nat.pow 2 (-exponent).toNat)

/-- The exact value of a finite double as numerator and positive
denominator. -/
def toQuotient? : Binary64 → Option (Int × Nat)
  | .finite negative m e =>
    let (n, d) := magnitude m e
    some (if negative then -(n : Int) else n, d)
  | _ => none

/-- Zero of either sign. -/
def isZero : Binary64 → Bool
  | .finite _ 0 _ => true
  | _ => false

/-- The number with any fraction dropped; the infinities and NaN have none. -/
def truncate? (x : Binary64) : Option Int :=
  x.toQuotient?.map fun (n, d) => Int.tdiv n d

/-- Equality of the numbers denoted: the two zeros are equal, and NaN equals
nothing. -/
def equals : Binary64 → Binary64 → Bool
  | .infinite a, .infinite b => a == b
  | x, y =>
    match x.toQuotient?, y.toQuotient? with
    | some (n, d), some (n', d') => n * d' == n' * d
    | _, _ => false

/-- Whether the number denoted is the integer `k`. -/
def equalsInt (x : Binary64) (k : Int) : Bool :=
  match x.toQuotient? with
  | some (n, d) => n == k * d
  | none => false

/-- Whether the integer `k` lies above the number; nothing lies above or below
NaN. -/
def belowInt (x : Binary64) (k : Int) : Bool :=
  match x with
  | .nan => false
  | .infinite negative => negative
  | .finite .. =>
    match x.toQuotient? with
    | some (n, d) => decide (n < k * d)
    | none => false

/-- The rounded difference of two finite doubles. Arithmetic is only ever
needed on finite numbers; anything else gives NaN. -/
def sub (x y : Binary64) : Binary64 :=
  match x.toQuotient?, y.toQuotient? with
  | some (n, d), some (n', d') => ofQuotient (n * d' - n' * d) (d * d')
  | _, _ => .nan

/-- The rounded product of a finite double and a natural number, keeping the
sign of a zero. -/
def scaleBy (x : Binary64) (k : Nat) : Binary64 :=
  match x with
  | .finite negative m e =>
    let (n, d) := magnitude m e
    ofRatio negative (n * k) d
  | _ => .nan

end Binary64
end PushRelay
