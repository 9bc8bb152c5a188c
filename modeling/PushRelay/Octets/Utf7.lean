import PushRelay.Octets.Decoder

/-!
# UTF-7

ASCII in which a plus sign begins a section of UTF-16 in base 64. The section
ends at the first octet that is no digit of the base, and a hyphen there
belongs to it. The bits that are left over at the end of a section have to be
fewer than a digit, and zero.
-/

namespace PushRelay.Octets

/-- The value of a digit in base 64. -/
def base64Digit? (b : UInt8) : Option Nat :=
  let n := b.toNat
  if 0x41 ≤ n ∧ n ≤ 0x5A then some (n - 0x41)
  else if 0x61 ≤ n ∧ n ≤ 0x7A then some (n - 0x61 + 26)
  else if 0x30 ≤ n ∧ n ≤ 0x39 then some (n - 0x30 + 52)
  else if n = 0x2B then some 62
  else if n = 0x2F then some 63
  else none

/-- The digits at the front. -/
def base64Digits : List UInt8 → List Nat
  | [] => []
  | b :: rest =>
    match base64Digit? b with
    | some d => d :: base64Digits rest
    | none => []

/-- What a section of base 64 holds: units of 16 bits, and the bits that are
left over. -/
structure Section where
  units : List Nat
  spareBits : Nat
  spare : Nat

/-- Whether what is left over at the end of a section is too much. -/
def Section.ragged (s : Section) : Bool := 6 ≤ s.spareBits || s.spare != 0

/-- Reads digits, where `spare` has so many bits from the digits before. -/
def readSection (spareBits spare : Nat) : List Nat → Section
  | [] => ⟨[], spareBits, spare⟩
  | digit :: digits =>
    let bits := spareBits + 6
    let value := spare * 64 + digit
    if bits < 16 then readSection bits value digits
    else
      let s := readSection (bits - 16) (value % Nat.pow 2 (bits - 16)) digits
      { s with units := value / Nat.pow 2 (bits - 16) :: s.units }

/-- Whether a unit is the first of two for one character. -/
def isHigh (unit : Nat) : Bool := 0xD800 ≤ unit && unit < 0xDC00

/-- Whether a unit is the second of two for one character. -/
def isLow (unit : Nat) : Bool := 0xDC00 ≤ unit && unit < 0xE000

/-- The characters of units, and whether the last unit waits for another one.
What stands alone becomes a replacement character. -/
def unitChars : List Nat → List Char × Bool
  | [] => ([], false)
  | [unit] =>
    if isHigh unit then ([], true)
    else ([if isLow unit then replacement else Char.ofNat unit], false)
  | unit :: next :: units =>
    if isHigh unit && isLow next then
      let (cs, waits) := unitChars units
      (Char.ofNat (0x10000 + (unit - 0xD800) * 0x400 + (next - 0xDC00)) :: cs, waits)
    else
      let (cs, waits) := unitChars (next :: units)
      ((if isHigh unit || isLow unit then replacement else Char.ofNat unit) :: cs, waits)
termination_by units => units.length
decreasing_by all_goals simp only [List.length_cons]; omega

/-- The step at a section. -/
def utf7Section (rest : List UInt8) : Step Unit :=
  let digits := base64Digits rest
  let s := readSection 0 0 digits
  let (cs, waits) := unitChars s.units
  match rest.drop digits.length with
  | [] => .taken digits.length cs (!(s.ragged || waits)) ()
  | b :: _ =>
    if s.ragged then .taken (digits.length + 1) cs false ()
    else
      let alone := if waits && b.toNat < 0x80 then [replacement] else []
      .taken (digits.length + if b.toNat = 0x2D then 1 else 0) (cs ++ alone) true ()

/-- The decoder of UTF-7. A plus sign in front of a hyphen stands for
itself. -/
def utf7Decoder : Decoder Unit := fun _ a rest =>
  if 0x80 ≤ a.toNat then .flaw () 0
  else if a.toNat ≠ 0x2B then .char () 0 (Char.ofNat a.toNat)
  else
    match rest with
    | [] => .taken 0 [] true ()
    | b :: _ =>
      if b.toNat = 0x2D then .char () 1 '+'
      else if (base64Digit? b).isNone then .flaw () 1
      else utf7Section rest

end PushRelay.Octets
