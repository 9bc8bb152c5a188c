import PushRelay.Number.Fixed

/-!
# Instants

A date and a time of day to the microsecond, with or without a distance from
universal time. The clock counts microseconds since the start of 1970 in
universal time, before it as well as after it.
-/

namespace PushRelay

/-- A date and time. `offset` is its distance east of universal time in
microseconds, when known. -/
structure Instant where
  year : Nat
  month : Nat
  day : Nat
  hour : Nat
  minute : Nat
  second : Nat
  micro : Nat
  offset : Option Int
  deriving DecidableEq, Repr, Inhabited

namespace Instant

/-- The date that lies `days` after the first of January 1970: the year counts
from March, so that the leap day is the last of its year, and eras of 400
years all have the same length. -/
def dateOfDays (days : Int) : Nat × Nat × Nat :=
  let z := days + 719468
  let era := Int.fdiv z 146097
  let dayOfEra := (z - era * 146097).toNat
  let yearOfEra := (dayOfEra - dayOfEra / 1460 + dayOfEra / 36524 - dayOfEra / 146096) / 365
  let dayOfYear := dayOfEra - (365 * yearOfEra + yearOfEra / 4 - yearOfEra / 100)
  let shifted := (5 * dayOfYear + 2) / 153
  let day := dayOfYear - (153 * shifted + 2) / 5 + 1
  let month := if shifted < 10 then shifted + 3 else shifted - 9
  let year := ((yearOfEra : Int) + era * 400).toNat
  (if month ≤ 2 then year + 1 else year, month, day)

/-- The days from the first of January 1970 to a date. -/
def daysOfDate (year month day : Nat) : Int :=
  let y : Int := if month ≤ 2 then (year : Int) - 1 else year
  let era := Int.fdiv y 400
  let yearOfEra := y - era * 400
  let shifted : Int := if 2 < month then (month : Int) - 3 else (month : Int) + 9
  let dayOfYear := Int.fdiv (153 * shifted + 2) 5 + day - 1
  era * 146097 + yearOfEra * 365 + Int.fdiv yearOfEra 4 - Int.fdiv yearOfEra 100 + dayOfYear - 719468

/-- The instant, in universal time, that the clock shows as `micros`. -/
def ofMicros (micros : Int) : Instant :=
  let days := Int.fdiv micros 86400000000
  let rest := (micros - days * 86400000000).toNat
  let (year, month, day) := dateOfDays days
  { year, month, day
    hour := rest / 3600000000
    minute := rest / 60000000 % 60
    second := rest / 1000000 % 60
    micro := rest % 1000000
    offset := some 0 }

/-- Microseconds from the start of 1970, by the instant's own calendar. -/
def localMicros (t : Instant) : Int :=
  daysOfDate t.year t.month t.day * 86400000000 +
    ((t.hour * 60 + t.minute) * 60 + t.second) * 1000000 + t.micro

/-- Two instants are equal when they name the same point in time; one with a
known offset never equals one without. -/
def equals (a b : Instant) : Bool :=
  match a.offset, b.offset with
  | some x, some y => a.localMicros - x == b.localMicros - y
  | none, none => a.localMicros == b.localMicros
  | _, _ => false

/-- A fraction of a second, left out when there is none. -/
def fractionText (micro : Nat) : List Char :=
  if micro = 0 then [] else '.' :: Decimal.paddedDigits 6 micro

/-- An offset as hours and minutes, with seconds only when there are any. -/
def offsetText (offset : Int) : List Char :=
  let n := offset.natAbs
  let seconds := n / 1000000
  (if offset < 0 then '-' else '+') :: (Decimal.paddedDigits 2 (seconds / 3600) ++
    ':' :: Decimal.paddedDigits 2 (seconds / 60 % 60) ++
    if n % 60000000 = 0 then []
    else ':' :: (Decimal.paddedDigits 2 (seconds % 60) ++ fractionText (n % 1000000)))

/-- Date and time with `separator` between them. -/
def dateTimeText (separator : Char) (t : Instant) : String :=
  String.ofList <|
    Decimal.paddedDigits 4 t.year ++ '-' :: Decimal.paddedDigits 2 t.month ++
    '-' :: Decimal.paddedDigits 2 t.day ++ separator :: Decimal.paddedDigits 2 t.hour ++
    ':' :: Decimal.paddedDigits 2 t.minute ++ ':' :: Decimal.paddedDigits 2 t.second ++
    fractionText t.micro ++ (t.offset.map offsetText).getD []

/-- The ISO 8601 text. -/
def isoText (t : Instant) : String := t.dateTimeText 'T'

/-- The text that shows every part of a distance in time, in days, seconds and
microseconds of which only the days can be negative. -/
def distanceLiteral (micros : Int) : String :=
  let days := Int.fdiv micros 86400000000
  let rest := (micros - days * 86400000000).toNat
  let parts :=
    (if days = 0 then [] else [s!"days={days}"]) ++
    (if rest / 1000000 = 0 then [] else [s!"seconds={rest / 1000000}"]) ++
    (if rest % 1000000 = 0 then [] else [s!"microseconds={rest % 1000000}"])
  "datetime.timedelta(" ++ ", ".intercalate parts ++ ")"

/-- The text that shows every part of an offset. -/
def offsetLiteral (offset : Int) : String :=
  if offset = 0 then "datetime.timezone.utc" else s!"datetime.timezone({distanceLiteral offset})"

/-- The text that shows every part of an instant; seconds and microseconds are
left out from the end when they are zero. -/
def literal (t : Instant) : String :=
  let parts := [t.year, t.month, t.day, t.hour, t.minute] ++
    (if t.micro = 0 then (if t.second = 0 then [] else [t.second]) else [t.second, t.micro])
  let zone := match t.offset with
    | none => []
    | some x => ["tzinfo=" ++ offsetLiteral x]
  "datetime.datetime(" ++ ", ".intercalate (parts.map toString ++ zone) ++ ")"

/-- The time of day to the millisecond. -/
def clockText (t : Instant) : List Char :=
  Decimal.paddedDigits 2 t.hour ++ ':' :: Decimal.paddedDigits 2 t.minute ++
  ':' :: Decimal.paddedDigits 2 t.second ++ '.' :: (Decimal.paddedDigits 6 t.micro).take 3

end Instant
end PushRelay
