import PushRelay.Instant
import PushRelay.Text.Quoted

/-!
# Reading instants

ISO 8601 writes a date by month and day or by week and weekday, with hyphens
between its parts or without them. Any one character separates it from the
time of day, which may break off after each of its parts and may be followed
by an offset from universal time.
-/

namespace PushRelay.Instant

/-! ## Digits -/

/-- A number of exactly `width` digits at the front of a text. -/
def readNumber? (width : Nat) (cs : List Char) : Option (Nat × List Char) :=
  let digits := cs.take width
  if digits.length = width ∧ digits.all Char.isDigit then
    some (digits.foldl (fun n c => n * 10 + (c.toNat - 48)) 0, cs.drop width)
  else none

/-- What follows a hyphen, where there has to be one if `wanted`. -/
def afterHyphen? (wanted : Bool) (cs : List Char) : Option (List Char) :=
  if wanted then
    match cs with
    | '-' :: rest => some rest
    | _ => none
  else some cs

/-! ## Dates -/

/-- Whether a year has a leap day. -/
def isLeap (year : Nat) : Bool := year % 4 = 0 && (year % 100 != 0 || year % 400 = 0)

/-- The days of a month. -/
def daysOfMonth (year month : Nat) : Nat :=
  if month = 2 then (if isLeap year then 29 else 28)
  else if month = 4 ∨ month = 6 ∨ month = 9 ∨ month = 11 then 30
  else 31

/-- The days from the first of January 1970 to the Monday of the first week of
a year, which is the week that holds the fourth of January. -/
def firstMonday (year : Nat) : Int :=
  let fourth := daysOfDate year 1 4
  fourth - Int.fmod (fourth + 3) 7

/-- The date of a weekday, from Monday as 1, in a week of a year. -/
def dateOfWeek? (year week weekday : Nat) : Option (Nat × Nat × Nat) :=
  let monday := firstMonday year + 7 * ((week : Int) - 1)
  if 1 ≤ year ∧ 1 ≤ week ∧ monday < firstMonday (year + 1) ∧ 1 ≤ weekday ∧ weekday ≤ 7 then
    some (dateOfDays (monday + weekday - 1))
  else none

/-- How many digits stand at the front of a text. -/
def digitCount (cs : List Char) : Nat := (cs.takeWhile Char.isDigit).length

/-- How long the date at the front of a text is. After a week with hyphens, a
hyphen separates the time if two characters on there is a digit; after a week
without them, a weekday comes before an even number of digits. -/
def dateLength (cs : List Char) : Nat :=
  if cs.length = 7 then 7
  else
    match cs.drop 4 with
    | '-' :: 'W' :: _ :: _ :: '-' :: _ :: next :: _ => if next.isDigit then 8 else 10
    | '-' :: 'W' :: _ :: _ :: '-' :: _ => 10
    | '-' :: 'W' :: _ => 8
    | '-' :: _ => 10
    | 'W' :: _ :: _ :: rest =>
      let last := 7 + digitCount rest
      if last < 9 then last else if last % 2 = 0 then 7 else 8
    | _ => 8

/-- The date that a whole text holds. -/
def readDate? (cs : List Char) : Option (Nat × Nat × Nat) := do
  let (year, rest) ← readNumber? 4 cs
  let hyphens := rest.head? == some '-'
  let rest ← afterHyphen? hyphens rest
  match rest with
  | 'W' :: rest => do
    let (week, rest) ← readNumber? 2 rest
    if rest.isEmpty then dateOfWeek? year week 1
    else do
      let rest ← afterHyphen? hyphens rest
      let (weekday, _) ← readNumber? 1 rest
      dateOfWeek? year week weekday
  | rest => do
    let (month, rest) ← readNumber? 2 rest
    let rest ← afterHyphen? hyphens rest
    let (day, _) ← readNumber? 2 rest
    some (year, month, day)

/-! ## Times of day -/

/-- A time of day, or the amount of an offset, as it was read; `complete`
tells whether that took the whole text. -/
structure Clock where
  parts : List Nat := []
  micro : Nat := 0
  complete : Bool := true
  deriving DecidableEq, Repr

/-- The hours, minutes or seconds. -/
def Clock.part (c : Clock) (i : Nat) : Nat := (c.parts[i]?).getD 0

/-- The microseconds of a fraction, whose digits after the sixth are passed
over. -/
def readFraction? (parts : List Nat) (cs : List Char) : Option Clock := do
  let width := min 6 cs.length
  let (n, rest) ← readNumber? width cs
  some { parts, micro := n * Nat.pow 10 (6 - width), complete := (rest.dropWhile Char.isDigit).isEmpty }

/-- Reads pairs of digits, at most `left` more of them after those in `parts`,
and a fraction. Whether colons separate them shows after the first pair, and a
separator with nothing behind it ends the time. -/
def readPairs? (parts : List Nat) (colons : Option Bool) : (left : Nat) → List Char → Option Clock
  | 0, cs => readFraction? parts cs
  | left + 1, cs => do
    let (n, rest) ← readNumber? 2 cs
    let parts := parts ++ [n]
    match rest with
    | [] => some { parts }
    | c :: rest' =>
      let colons := colons.getD (c == ':')
      if rest'.isEmpty then some { parts, complete := false }
      else if colons && c == ':' then readPairs? parts colons left rest'
      else if c == '.' || c == ',' then readFraction? parts rest'
      else if colons then none
      else readPairs? parts colons left rest

/-- Reads a time of day without an offset. -/
def readClock? (cs : List Char) : Option Clock := readPairs? [] none 3 cs

/-- Whether a character begins an offset. -/
def beginsOffset (c : Char) : Bool := c == '+' || c == '-' || c == 'Z'

/-- Reads an offset in microseconds, which is negative after a hyphen. One of
less than a second is none at all. -/
def readOffset? : List Char → Option Int
  | [] => none
  | ['Z'] => some 0
  | sign :: cs => do
    let clock ← readClock? cs
    let seconds := (clock.part 0 * 60 + clock.part 1) * 60 + clock.part 2
    let total : Int := if seconds = 0 then 0 else seconds * 1000000 + clock.micro
    if sign ≠ 'Z' ∧ clock.complete then some (if sign = '-' then -total else total) else none

/-! ## Instants -/

/-- Why a text is not an instant: it has another form, or one of its parts is
out of range. -/
inductive IsoError where
  | malformed (text : String)
  | year (year : Nat)
  | month
  | day
  | hour
  | minute
  | second
  | offset (micros : Int)
  deriving DecidableEq, Repr

/-- What the error says. -/
def IsoError.message : IsoError → String
  | .malformed s => "Invalid isoformat string: " ++ String.ofList (Text.quoted s.toList)
  | .year n => s!"year {n} is out of range"
  | .month => "month must be in 1..12"
  | .day => "day is out of range for month"
  | .hour => "hour must be in 0..23"
  | .minute => "minute must be in 0..59"
  | .second => "second must be in 0..59"
  | .offset n =>
    "offset must be a timedelta strictly between -timedelta(hours=24) and timedelta(hours=24), not " ++
      distanceLiteral n ++ "."

/-- The first part of an instant that is out of range: its offset comes before
its date, and that before its time of day. -/
def flaw? (t : Instant) : Option IsoError :=
  if t.offset.any fun x => 86400000000 ≤ x.natAbs then t.offset.map .offset
  else if t.year < 1 ∨ 9999 < t.year then some (.year t.year)
  else if t.month < 1 ∨ 12 < t.month then some .month
  else if t.day < 1 ∨ daysOfMonth t.year t.month < t.day then some .day
  else if 24 ≤ t.hour then some .hour
  else if 60 ≤ t.minute then some .minute
  else if 60 ≤ t.second then some .second
  else none

/-- Reads a time of day and the offset after it, for a date. -/
def readTime? (year month day : Nat) (cs : List Char) : Option Instant := do
  let clock ← readClock? (cs.takeWhile (!beginsOffset ·))
  let zone := cs.dropWhile (!beginsOffset ·)
  let offset ← if zone.isEmpty then (if clock.complete then some none else none)
    else (readOffset? zone).map some
  some {
    year, month, day
    hour := clock.part 0
    minute := clock.part 1
    second := clock.part 2
    micro := clock.micro
    offset }

/-- Reads an instant, whose parts may be out of range. A date alone is its
midnight. -/
def readParts? (cs : List Char) : Option Instant := do
  let n := dateLength cs
  let (year, month, day) ← readDate? (cs.take n)
  match cs.drop n with
  | [] => some ⟨year, month, day, 0, 0, 0, 0, none⟩
  | _ :: time => readTime? year month day time

/-- Reads an instant. -/
def ofIso (text : String) : Except IsoError Instant :=
  match readParts? text.toList with
  | none => .error (.malformed text)
  | some t =>
    match t.flaw? with
    | some e => .error e
    | none => .ok t

end PushRelay.Instant
