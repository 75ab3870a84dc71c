/-!
# Dates and instants

- `Date`: a day of the Gregorian calendar, continued without end into the past. The years from
  `minYear` to `maxYear` have dates.
- `Instant`: a moment of universal time. A leap second is the second before it with more than a
  whole second in nanoseconds.
- `Instant.rank`: the place of an instant on a line; earlier instants have smaller ranks.
- `Instant.ofLocal?`: the instant that a clock shows somewhere.
- `Instant.ofEpoch?`: the instant of a count of seconds.
-/

namespace RegistryDedup

/-- Whether a year has a 29th of February. -/
def isLeapYear (year : Int) : Bool :=
  year % 4 == 0 && (year % 100 != 0 || year % 400 == 0)

/-- How many days a month has. -/
def daysInMonth (year : Int) (month : Nat) : Nat :=
  if month = 2 then (if isLeapYear year then 29 else 28)
  else if month = 4 ∨ month = 6 ∨ month = 9 ∨ month = 11 then 30
  else 31

/-- The first year with dates. -/
def minYear : Int := -262143

/-- The last year with dates. -/
def maxYear : Int := 262142

/-- Whether a day exists. -/
def isDate (year : Int) (month day : Nat) : Bool :=
  minYear ≤ year && year ≤ maxYear && 1 ≤ month && month ≤ 12 && 1 ≤ day &&
    day ≤ daysInMonth year month

/-- A day of the calendar. -/
structure Date where
  year : Int
  month : Nat
  day : Nat
  isDate : isDate year month day = true
  deriving DecidableEq

namespace Date

/-- The date with the given year, month and day, if there is one. -/
def ofFields? (year : Int) (month day : Nat) : Option Date :=
  if h : RegistryDedup.isDate year month day = true then some ⟨year, month, day, h⟩ else none

/-- The next day. -/
def next? (d : Date) : Option Date :=
  (ofFields? d.year d.month (d.day + 1)).or
    ((ofFields? d.year (d.month + 1) 1).or (ofFields? (d.year + 1) 1 1))

/-- The day before. -/
def previous? (d : Date) : Option Date :=
  if 1 < d.day then ofFields? d.year d.month (d.day - 1)
  else if 1 < d.month then ofFields? d.year (d.month - 1) (daysInMonth d.year (d.month - 1))
  else ofFields? (d.year - 1) 12 31

end Date

/-- How many seconds a day has, leap seconds apart. -/
def secondsPerDay : Nat := 86400

/-- How many nanoseconds a second has. -/
def nanosPerSecond : Nat := 1000000000

/-- A moment of universal time: a day, the second of the day, and nanoseconds. A second and more
of nanoseconds stand for a leap second. -/
structure Instant where
  date : Date
  second : Nat
  nano : Nat
  second_lt : second < secondsPerDay := by decide
  nano_lt : nano < 2 * nanosPerSecond := by decide
  deriving DecidableEq

namespace Instant

/-- The place of an instant on a line. -/
def rank (t : Instant) : Int :=
  (((t.date.year * 12 + t.date.month) * 31 + t.date.day) * secondsPerDay + t.second) *
    (2 * nanosPerSecond) + t.nano

/-- Whether one instant is before another. -/
def before (s t : Instant) : Bool :=
  s.rank < t.rank

/-- The instant with the given fields, if they are in range. -/
def ofFields? (date : Date) (second nano : Nat) : Option Instant :=
  if hs : second < secondsPerDay then
    if hn : nano < 2 * nanosPerSecond then some ⟨date, second, nano, hs, hn⟩ else none
  else none

/-- The instant at which a clock shows a time of day on a date, where the clock is `offset` seconds
ahead of universal time. The second `60` is a leap second. -/
def ofLocal? (date : Date) (hour minute second nano : Nat) (offset : Int) : Option Instant := do
  guard (hour ≤ 23 && minute ≤ 59 && second ≤ 60 && nano < nanosPerSecond)
  let (second, nano) := if second = 60 then (59, nano + nanosPerSecond) else (second, nano)
  let t : Int := (hour * 3600 + minute * 60 + second : Nat) - offset
  if t < 0 then ofFields? (← date.previous?) (t + secondsPerDay).toNat nano
  else if t < secondsPerDay then ofFields? date t.toNat nano
  else ofFields? (← date.next?) (t - secondsPerDay).toNat nano

/-- The instant some seconds and nanoseconds after the start of 1970. Years are counted from March
on, so that a leap day is the last day of its year, and in eras of four hundred years. -/
def ofEpoch? (seconds : Int) (nano : Nat) : Option Instant := do
  let days := seconds.fdiv secondsPerDay + 719468
  let era := days.fdiv 146097
  let dayOfEra := (days - era * 146097).toNat
  let yearOfEra := (dayOfEra - dayOfEra / 1460 + dayOfEra / 36524 - dayOfEra / 146096) / 365
  let dayOfYear := dayOfEra - (365 * yearOfEra + yearOfEra / 4 - yearOfEra / 100)
  let month := (5 * dayOfYear + 2) / 153
  let day := dayOfYear - (153 * month + 2) / 5 + 1
  let year := yearOfEra + era * 400
  let date ← if month < 10 then Date.ofFields? year (month + 3) day
    else Date.ofFields? (year + 1) (month - 9) day
  ofFields? date (seconds.fmod secondsPerDay).toNat nano

/-- The hour of the day. -/
def hour (t : Instant) : Nat :=
  t.second / 3600

/-- The minute of the hour. -/
def minute (t : Instant) : Nat :=
  t.second / 60 % 60

/-- Whether the instant is within a leap second. -/
def isLeap (t : Instant) : Bool :=
  nanosPerSecond ≤ t.nano

/-- The second of the minute, which is 60 in a leap second that ends a minute. -/
def secondOfMinute (t : Instant) : Nat :=
  t.second % 60 + if t.isLeap then 1 else 0

/-- The nanoseconds of the second. -/
def subsecond (t : Instant) : Nat :=
  if t.isLeap then t.nano - nanosPerSecond else t.nano

end Instant

example : (Date.ofFields? 2024 2 28).bind Date.next? = Date.ofFields? 2024 2 29 := by decide
example : (Date.ofFields? 1900 3 1).bind Date.previous? = Date.ofFields? 1900 2 28 := by decide
example : (Instant.ofEpoch? 951827696 0).map (fun t => (t.date.year, t.date.month, t.date.day)) =
    some (2000, 2, 29) := by decide +kernel
example : (Instant.ofEpoch? (-1) 0).map (fun t => (t.date.year, t.date.day, t.second)) =
    some (1969, 31, 86399) := by decide +kernel
example : (Date.ofFields? maxYear 12 31).bind Date.next? = none := by decide

end RegistryDedup
