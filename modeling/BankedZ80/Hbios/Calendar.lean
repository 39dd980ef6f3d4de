/-!
# The clock

Seconds since the beginning of 1970, broken down into a date and a time of day, and the six-byte
buffer of packed decimal digits in which the firmware hands them to the guest.

Days are counted in years that begin in March, so that a leap day is the last of its year, and in
eras of 400 years, which all have 146097 days.
-/

namespace BankedZ80

/-- A date and time of day. -/
structure DateTime where
  year : UInt16
  month : UInt8
  day : UInt8
  hour : UInt8
  minute : UInt8
  second : UInt8
deriving DecidableEq, Repr

/-- A date of the Gregorian calendar. -/
structure Date where
  year : Nat
  month : Nat
  day : Nat
deriving DecidableEq, Repr

/-- Days in an era of 400 years. -/
def daysPerEra : Nat := 146097

/-- Days from the first of March of the year 0 to the first of January 1970. -/
def epochOffset : Nat := 719468

/-- The date a number of days after the first of January 1970. -/
def Date.ofDays (days : Nat) : Date :=
  let z := days + epochOffset
  let era := z / daysPerEra
  let dayOfEra := z % daysPerEra
  let yearOfEra :=
    (dayOfEra - dayOfEra / 1460 + dayOfEra / 36524 - dayOfEra / 146096) / 365
  let dayOfYear := dayOfEra - (365 * yearOfEra + yearOfEra / 4 - yearOfEra / 100)
  let monthFromMarch := (5 * dayOfYear + 2) / 153
  let day := dayOfYear - (153 * monthFromMarch + 2) / 5 + 1
  let month := if monthFromMarch < 10 then monthFromMarch + 3 else monthFromMarch - 9
  { year := yearOfEra + era * 400 + (if month ≤ 2 then 1 else 0), month, day }

namespace DateTime

/-- The date and time a number of seconds after the beginning of 1970; the year wraps. -/
def ofUnix (seconds : UInt64) : DateTime :=
  let date := Date.ofDays (seconds.toNat / 86400)
  let ofDay := seconds.toNat % 86400
  { year := date.year.toUInt16
    month := date.month.toUInt8
    day := date.day.toUInt8
    hour := (ofDay / 3600).toUInt8
    minute := (ofDay % 3600 / 60).toUInt8
    second := (ofDay % 60).toUInt8 }

/-- The tens in the upper and the ones in the lower half of a byte. -/
def packDecimal (v : UInt8) : UInt8 := ((v / 10) <<< 4) ||| (v % 10)

/-- The clock buffer: year of the century, month, day, hour, minute and second. -/
def toBuffer (t : DateTime) : List UInt8 :=
  [(t.year % 100).toUInt8, t.month, t.day, t.hour, t.minute, t.second].map packDecimal

end DateTime

end BankedZ80
