/-!
# Punycode

Names with characters outside ASCII in letters, digits and hyphens (RFC 3492).
The characters of ASCII come first; then, for each of the others in ascending
order, a number that says how far the place at which it is inserted lies after
the last one. A number has as many digits as it needs, and the bias adapts how
large they may be to the numbers so far.
-/

namespace PushRelay.Url.Punycode

/-- The digit for a value below 36. -/
def digit (n : Nat) : Char := Char.ofNat (if n < 26 then 0x61 + n else 0x30 + (n - 26))

/-- The value of a digit. -/
def digitValue? (c : Char) : Option Nat :=
  let n := c.toNat
  if 0x61 ≤ n ∧ n ≤ 0x7A then some (n - 0x61)
  else if 0x41 ≤ n ∧ n ≤ 0x5A then some (n - 0x41)
  else if 0x30 ≤ n ∧ n ≤ 0x39 then some (n - 0x30 + 26)
  else none

/-- The threshold of the digit at a place, counted from zero. -/
def threshold (place bias : Nat) : Nat := min 26 (max 1 (36 * (place + 1) - bias))

theorem threshold_pos (place bias : Nat) : 1 ≤ threshold place bias := by
  simp only [threshold]
  omega

/-- Divides by 35 until nothing above 455 is left; for each division the bias
is 36 larger. -/
def shrink (delta divisions : Nat) : Nat × Nat :=
  if 455 < delta then shrink (delta / 35) (divisions + 36) else (delta, divisions)
termination_by delta
decreasing_by exact Nat.div_lt_self (by omega) (by omega)

/-- The bias after the number `delta`, when there are `count` characters. -/
def adapt (delta : Nat) (first : Bool) (count : Nat) : Nat :=
  let delta := if first then delta / 700 else delta / 2
  let (delta, divisions) := shrink (delta + delta / count) 0
  divisions + 36 * delta / (delta + 38)

/-- The digits of a number, from a place on. -/
def digitsFrom (bias place n : Nat) : List Char :=
  let t := threshold place bias
  if n < t then [digit n]
  else digit (t + (n - t) % (36 - t)) :: digitsFrom bias (place + 1) ((n - t) / (36 - t))
termination_by n
decreasing_by
  have := threshold_pos place bias
  exact Nat.lt_of_le_of_lt (Nat.div_le_self _ _) (by omega)

/-- What encoding has come to: the digits so far, the number in the making,
the bias, and how many characters are in place. -/
structure Progress where
  written : List Char
  delta : Nat
  bias : Nat
  count : Nat

/-- Passes one character of the name while the character numbered `point` is
being inserted. -/
def pass (basic point : Nat) (p : Progress) (n : Nat) : Progress :=
  if n < point then { p with delta := p.delta + 1 }
  else if n = point then
    { written := p.written ++ digitsFrom p.bias 0 p.delta
      delta := 0
      bias := adapt p.delta (p.count == basic) (p.count + 1)
      count := p.count + 1 }
  else p

/-- Inserts the characters numbered `points`, where `next` is the first number
not dealt with. -/
def insertAll (name : List Nat) (basic : Nat) : (points : List Nat) → (next : Nat) → Progress → Progress
  | [], _, p => p
  | point :: points, next, p =>
    let p := { p with delta := p.delta + (point - next) * (p.count + 1) }
    let p := name.foldl (pass basic point) p
    insertAll name basic points (point + 1) { p with delta := p.delta + 1 }

/-- Puts a number in its place in an ascending list, once. -/
def insertSorted (n : Nat) : List Nat → List Nat
  | [] => [n]
  | m :: ms => if n < m then n :: m :: ms else if n = m then m :: ms else m :: insertSorted n ms

/-- Encodes a name, given by its code points. -/
def encode (name : List Nat) : List Char :=
  let basic := name.filter (· < 0x80)
  let points := (name.filter (0x80 ≤ ·)).foldl (fun ps n => insertSorted n ps) []
  let p := insertAll name basic.length points 0x80 ⟨[], 0, 72, basic.length⟩
  (if basic.isEmpty then [] else basic.map Char.ofNat ++ ['-']) ++ p.written

/-- A number at the front, read from a place on, and what follows it. -/
def number? (bias : Nat) : (place weight sum : Nat) → List Char → Option (Nat × List Char)
  | _, _, _, [] => none
  | place, weight, sum, c :: cs => do
    let d ← digitValue? c
    let t := threshold place bias
    let sum := sum + d * weight
    if d < t then some (sum, cs) else number? bias (place + 1) (weight * (36 - t)) sum cs

/-- Inserts what the digits tell into a name; `point` and `place` are those of
the last insertion. At most `fuel` characters are inserted. -/
def insertFrom? : (fuel : Nat) → (name : List Nat) → (point place bias : Nat) → (first : Bool) →
    List Char → Option (List Nat)
  | _, name, _, _, _, _, [] => some name
  | 0, _, _, _, _, _, _ :: _ => none
  | fuel + 1, name, point, place, bias, first, digits => do
    let (delta, rest) ← number? bias 0 1 0 digits
    let count := name.length + 1
    let total := place + delta
    let point := point + total / count
    if 0x10FFFF < point then none
    else
      let place := total % count
      insertFrom? fuel (name.take place ++ point :: name.drop place) point (place + 1)
        (adapt delta first count) false rest

/-- Decodes a name into its code points. -/
def decode? (text : List Char) : Option (List Nat) :=
  let digits := (text.reverse.takeWhile (· != '-')).reverse
  let basic := (text.take (text.length - digits.length - 1)).map Char.toNat
  insertFrom? digits.length basic 0x80 0 72 true digits

end PushRelay.Url.Punycode
