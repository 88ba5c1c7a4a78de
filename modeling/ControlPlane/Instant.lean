import ControlPlane.Text.Blank
import ControlPlane.Text.Scan

/-!
# Instants

Points in time to the nanosecond, with leap seconds, and their RFC 3339 text.

Reading is lenient.  Blanks may stand before each number and around the
separators of the date and the time, the fields after the year may have one
digit, a signed year may have any number of digits, the date and the time may
be separated by `T`, `t` or a space, and the offset may be `Z`, `z`, `UTC` in
any case, or a sign with hours and minutes.  Second 60 is read as a leap second
of any minute.  An instant is written in UTC with `Z`, with as many fraction
digits as it needs in groups of three, and with a sign before a year of more
than four digits or before year zero.
-/

namespace ControlPlane

/-- A point in time: seconds since 1970-01-01T00:00:00Z that are no leap
seconds, and nanoseconds, which go past a second within a leap second. -/
structure Instant where
  seconds : Int
  nanos : Nat
  deriving DecidableEq, Repr

namespace Instant

open Text

/-- Is the first instant at most the second?  A leap second comes after the
second before it. -/
def le (a b : Instant) : Bool :=
  a.seconds < b.seconds || (a.seconds == b.seconds && a.nanos ≤ b.nanos)

/-- The instant a number of milliseconds after another, or before it if the
number is negative. -/
def addMillis (i : Instant) (millis : Int) : Instant :=
  let nanos : Int := i.nanos + millis * 1000000
  ⟨i.seconds + nanos / 1000000000, (nanos % 1000000000).toNat⟩

/-- The start of 1970 in UTC. -/
def epoch : Instant := ⟨0, 0⟩

/-! ## The calendar -/

/-- A day of the proleptic Gregorian calendar. -/
structure Date where
  year : Int
  month : Nat
  day : Nat
  deriving DecidableEq, Repr

/-- Does a year have a 29 February? -/
def isLeap (year : Int) : Bool := year % 4 == 0 && (year % 100 != 0 || year % 400 == 0)

/-- The number of days of a month. -/
def daysInMonth (year : Int) (month : Nat) : Nat :=
  match month with
  | 2 => if isLeap year then 29 else 28
  | 4 | 6 | 9 | 11 => 30
  | _ => 31

/-- The days from 1970-01-01 to a date.  Years are counted from 1 March, so
that a leap day ends its year. -/
def Date.days (d : Date) : Int :=
  let year := if d.month ≤ 2 then d.year - 1 else d.year
  let month := (d.month + 9) % 12
  let dayOfYear : Int := ((153 * month + 2) / 5 + d.day - 1 : Nat)
  year * 365 + year / 4 - year / 100 + year / 400 + dayOfYear - 719468

/-- The date a number of days after 1970-01-01. -/
def Date.ofDays (days : Int) : Date :=
  let shifted := days + 719468
  let era := shifted / 146097
  let dayOfEra := (shifted % 146097).toNat
  let yearOfEra := (dayOfEra - dayOfEra / 1460 + dayOfEra / 36524 - dayOfEra / 146096) / 365
  let dayOfYear := dayOfEra - (365 * yearOfEra + yearOfEra / 4 - yearOfEra / 100)
  let month := (5 * dayOfYear + 2) / 153
  let day := dayOfYear - (153 * month + 2) / 5 + 1
  let year := era * 400 + yearOfEra
  if month < 10 then ⟨year, month + 3, day⟩ else ⟨year + 1, month - 9, day⟩

/-- The first and last years of the calendar. -/
def yearRange : Int × Int := (-262143, 262142)

/-- Is the date in the calendar? -/
def Date.exists (d : Date) : Bool :=
  yearRange.1 ≤ d.year && d.year ≤ yearRange.2 && 1 ≤ d.month && d.month ≤ 12 &&
    1 ≤ d.day && d.day ≤ daysInMonth d.year d.month

/-! ## Reading -/

/-- Takes a number of one to `width` digits. -/
def scanNumber (width : Nat) : Scan Nat := fun cs =>
  let (digits, _) := spanDigits digit? (cs.take width)
  if digits.isEmpty then none else some (ofDigits 10 digits, cs.drop digits.length)

/-- Takes blanks and a number of one to `width` digits. -/
def scanField (width : Nat) : Scan Nat := fun cs => scanNumber width (trimStart cs)

/-- Takes blanks and a year: up to four digits, or a sign and any number of
digits up to the greatest signed word. -/
def scanYear : Scan Int := fun cs =>
  let signed (negative : Bool) (cs : List Char) : Option (Int × List Char) :=
    (scanDecimal 0x7fffffffffffffff cs).map fun (n, rest) => (if negative then -(n : Int) else n, rest)
  match trimStart cs with
  | '-' :: rest => signed true rest
  | '+' :: rest => signed false rest
  | rest => (scanNumber 4 rest).map fun (n, rest) => ((n : Int), rest)

/-- Takes blanks and one given character. -/
def scanMark (c : Char) : Scan Unit := fun cs => scanChar c (trimStart cs)

/-- Takes a fraction of a second in nanoseconds, if there is a point; digits
past the ninth are dropped. -/
def scanFraction : Scan Nat := fun cs =>
  match cs with
  | '.' :: rest =>
    let (digits, rest) := spanDigits digit? rest
    if digits.isEmpty then none
    else some (ofDigits 10 (digits.take 9) * Nat.pow 10 (9 - digits.length), rest)
  | rest => some (0, rest)

/-- Takes an offset from UTC, in seconds. -/
def scanOffset : Scan Int := fun cs => do
  let isUtc := cs.take 3 |>.map Char.toUpper
  if isUtc = ['U', 'T', 'C'] then return (0, cs.drop 3)
  match cs with
  | 'Z' :: rest | 'z' :: rest => return (0, rest)
  | sign :: h :: h' :: rest =>
    let negative ←
      if sign = '+' then some false
      else if sign = '-' ∨ sign = '\u2212' then some true
      else none
    let hours := (← digit? h) * 10 + (← digit? h')
    match rest.dropWhile fun c => c = ':' || isBlank c with
    | m :: m' :: rest =>
      let tens ← digit? m
      let minutes := tens * 10 + (← digit? m')
      if 60 ≤ minutes then none
      let offset : Int := (hours * 3600 + minutes * 60 : Nat)
      return (if negative then -offset else offset, rest)
    | _ => none
  | _ => none

/-- The instant that a text writes. -/
def parse? (text : String) : Option Instant := do
  let (year, cs) ← scanYear text.toList
  let ((), cs) ← scanMark '-' cs
  let (month, cs) ← scanField 2 cs
  let ((), cs) ← scanMark '-' cs
  let (day, cs) ← scanField 2 cs
  let cs ← match cs with
    | 'T' :: rest | 't' :: rest | ' ' :: rest => some rest
    | _ => none
  let (hour, cs) ← scanField 2 cs
  let ((), cs) ← scanMark ':' cs
  let (minute, cs) ← scanField 2 cs
  let ((), cs) ← scanMark ':' cs
  let (second, cs) ← scanField 2 cs
  let (fraction, cs) ← scanFraction cs
  let (offset, cs) ← scanOffset (trimStart cs)
  let date : Date := ⟨year, month, day⟩
  if !(trimStart cs).isEmpty || !date.exists || 24 ≤ hour || 60 ≤ minute || 61 ≤ second ||
      86400 ≤ offset.natAbs then none
  let leap := second = 60
  let timeOfDay : Int := (hour * 3600 + minute * 60 + if leap then 59 else second : Nat)
  let seconds := date.days * 86400 + timeOfDay - offset
  if !(Date.ofDays (seconds / 86400)).exists then none
  return ⟨seconds, if leap then fraction + 1000000000 else fraction⟩

/-! ## Writing -/

/-- The text of a year: four digits, or a sign and at least four digits. -/
def yearText (year : Int) : String :=
  if 0 ≤ year ∧ year ≤ 9999 then padded 4 year.toNat
  else (if year < 0 then "-" else "+") ++ padded 4 year.natAbs

/-- A fraction of a second with no, three, six or nine digits. -/
def fractionText (nanos : Nat) : String :=
  if nanos = 0 then ""
  else if nanos % 1000000 = 0 then "." ++ padded 3 (nanos / 1000000)
  else if nanos % 1000 = 0 then "." ++ padded 6 (nanos / 1000)
  else "." ++ padded 9 nanos

/-- The text of an instant in UTC. -/
def text (i : Instant) : String :=
  let date := Date.ofDays (i.seconds / 86400)
  let time := (i.seconds % 86400).toNat
  let leap := 1000000000 ≤ i.nanos
  yearText date.year ++ "-" ++ padded 2 date.month ++ "-" ++ padded 2 date.day ++ "T" ++
    padded 2 (time / 3600) ++ ":" ++ padded 2 (time / 60 % 60) ++ ":" ++
    padded 2 (if leap then time % 60 + 1 else time % 60) ++
    fractionText (if leap then i.nanos - 1000000000 else i.nanos) ++ "Z"

end Instant

end ControlPlane
