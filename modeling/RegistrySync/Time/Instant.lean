import RegistrySync.Time.Civil

/-!
Points in time with an offset from UTC, and their RFC 3339 text in whole seconds.

A leap second is written as a nanosecond count of a thousand million or more in the last second
of a minute. The offset is written in minutes, rounded to the nearest; `Z` stands for no offset
at all. A year that does not have four digits is written with its sign.
-/

namespace RegistrySync.Time

structure Instant where
  /-- Seconds since 1970-01-01T00:00:00Z. -/
  seconds : Int
  nanos : Nat
  /-- Seconds by which local time is ahead of UTC. -/
  offset : Int
  deriving DecidableEq, Repr

namespace Instant

def secondsPerDay : Int := 86400

/-- The span of years that can be told. -/
def firstYear : Int := -262143
def lastYear : Int := 262142

/-- The instant, if its year can be told, its offset is below a day and only the last second of a
minute is a leap second. -/
def ofUnix? (seconds : Int) (nanos : Nat) (offset : Int) : Option Instant :=
  let year := (Date.ofDays (seconds / secondsPerDay)).year
  if firstYear ≤ year ∧ year ≤ lastYear ∧ offset.natAbs < 86400 ∧
      (nanos < 1000000000 ∨ nanos < 2000000000 ∧ seconds % 60 = 59) then
    some ⟨seconds, nanos, offset⟩
  else none

/-- A number with zeros in front of it up to `width` digits. -/
def padded (width n : Nat) : String :=
  let digits := Nat.toDigits 10 n
  String.ofList (List.replicate (width - digits.length) '0' ++ digits)

def yearText (y : Int) : String :=
  if 0 ≤ y ∧ y ≤ 9999 then padded 4 y.toNat
  else (if y < 0 then "-" else "+") ++ padded 4 y.natAbs

def offsetText (offset : Int) : String :=
  if offset = 0 then "Z"
  else
    let minutes := (offset.natAbs + 30) / 60
    (if offset < 0 then "-" else "+") ++ padded 2 (minutes / 60) ++ ":" ++ padded 2 (minutes % 60)

/-- The RFC 3339 text. -/
def rfc3339 (t : Instant) : String :=
  let local' := t.seconds + t.offset
  let date := Date.ofDays (local' / secondsPerDay)
  let n := (local' % secondsPerDay).toNat
  let second := n % 60 + t.nanos / 1000000000
  yearText date.year ++ "-" ++ padded 2 date.month ++ "-" ++ padded 2 date.day ++ "T" ++
    padded 2 (n / 3600) ++ ":" ++ padded 2 (n / 60 % 60) ++ ":" ++ padded 2 second ++
    offsetText t.offset

end Instant

end RegistrySync.Time
