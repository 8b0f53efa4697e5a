/-!
Days and dates of the Gregorian calendar, continued without end in both directions.

Days are counted from 1970-01-01. Four hundred years are a whole number of days, so a date is
found inside an era of 400 years that starts on March 1; the leap day is then the last day of its
year.
-/

namespace RegistrySync.Time

structure Date where
  year : Int
  month : Nat
  day : Nat
  deriving DecidableEq, Repr

/-- Days of an era. -/
def eraDays : Int := 146097

/-- Days from 0000-03-01 to 1970-01-01. -/
def epochShift : Int := 719468

/-- The year of the era in which the day `n` of the era falls. -/
def yearOfEra (n : Int) : Int := (n - n / 1460 + n / 36524 - n / 146096) / 365

/-- The first day of a year of the era. -/
def startOfYear (y : Int) : Int := 365 * y + y / 4 - y / 100

def Date.ofDays (days : Int) : Date :=
  let z := days + epochShift
  let era := z / eraDays
  let n := z % eraDays
  let y := yearOfEra n
  let d := n - startOfYear y
  let m := (5 * d + 2) / 153
  let day := d - (153 * m + 2) / 5 + 1
  let month := if m < 10 then m + 3 else m - 9
  let year := y + era * 400 + if month ≤ 2 then 1 else 0
  ⟨year, month.toNat, day.toNat⟩

def Date.toDays (t : Date) : Int :=
  let y := if t.month ≤ 2 then t.year - 1 else t.year
  let m : Int := if t.month ≤ 2 then (t.month : Int) + 9 else (t.month : Int) - 3
  let era := y / 400
  era * eraDays + startOfYear (y % 400) + (153 * m + 2) / 5 + t.day - 1 - epochShift

example : Date.ofDays 0 = ⟨1970, 1, 1⟩ := by decide
example : Date.ofDays 11016 = ⟨2000, 2, 29⟩ := by decide
example : Date.ofDays (-1) = ⟨1969, 12, 31⟩ := by decide
example : Date.toDays ⟨2000, 2, 29⟩ = 11016 := by decide

end RegistrySync.Time
