import TypedRoutes.Calendar.Date
import TypedRoutes.Number.Digits
/-!
# Date-times

A day and a time of day to the nanosecond, with no offset. The seconds of a minute run to 60: the last
is a leap second, which any minute may have.
-/
namespace TypedRoutes.Calendar
open TypedRoutes.Number

structure TimeOfDay where
  hour : Nat
  minute : Nat
  second : Nat
  nanosecond : Nat
  hour_lt : hour < 24
  minute_lt : minute < 60
  second_le : second ≤ 60
  nanosecond_lt : nanosecond < 1000000000
  deriving DecidableEq

structure DateTime where
  date : Date
  time : TimeOfDay
  deriving DecidableEq

namespace TimeOfDay

def of? (hour minute second nanosecond : Nat) : Option TimeOfDay :=
  if h : hour < 24 ∧ minute < 60 ∧ second ≤ 60 ∧ nanosecond < 1000000000 then
    some ⟨hour, minute, second, nanosecond, h.1, h.2.1, h.2.2.1, h.2.2.2⟩
  else none

def minuteOfDay (t : TimeOfDay) : Nat :=
  60 * t.hour + t.minute

/-- The same seconds in another minute of the day. -/
def atMinute? (t : TimeOfDay) (n : Nat) : Option TimeOfDay :=
  of? (n / 60) (n % 60) t.second t.nanosecond

/-- The fraction of a second: nothing, or three, six or nine digits after a point, as few as hold
it. -/
def fractionText (nanosecond : Nat) : List Char :=
  if nanosecond = 0 then []
  else if nanosecond % 1000000 = 0 then '.' :: padded 3 (nanosecond / 1000000)
  else if nanosecond % 1000 = 0 then '.' :: padded 6 (nanosecond / 1000)
  else '.' :: padded 9 nanosecond

def text (t : TimeOfDay) : List Char :=
  padded 2 t.hour ++ ':' :: padded 2 t.minute ++ ':' :: padded 2 t.second ++
    fractionText t.nanosecond

end TimeOfDay

namespace Date

/-- The text of a year: four digits, and a sign if they are not enough. -/
def yearText (year : Int) : List Char :=
  if 0 ≤ year ∧ year ≤ 9999 then padded 4 year.natAbs
  else (if year < 0 then '-' else '+') :: padded 4 year.natAbs

def text (d : Date) : List Char :=
  yearText d.year ++ '-' :: padded 2 d.month ++ '-' :: padded 2 d.day

end Date

namespace DateTime

def text (t : DateTime) : List Char :=
  t.date.text ++ 'T' :: t.time.text

/-- The date-time a number of minutes earlier, for less than a day either way. The seconds stay as
they are, a leap second too. -/
def minusMinutes? (t : DateTime) (minutes : Int) : Option DateTime := do
  let n : Int := t.time.minuteOfDay - minutes
  if n < 0 then
    return ⟨← t.date.previous?, ← t.time.atMinute? (n + 1440).toNat⟩
  else if 1440 ≤ n then
    return ⟨← t.date.next?, ← t.time.atMinute? (n - 1440).toNat⟩
  else
    return ⟨t.date, ← t.time.atMinute? n.toNat⟩

/-- The seconds since the beginning of 1970, where a leap second counts as the second before it. -/
def epochSeconds (t : DateTime) : Int :=
  86400 * t.date.dayNumber + 60 * t.time.minuteOfDay + min t.time.second 59

/-- The nanoseconds past the counted second: a billion or more within a leap second. -/
def subsecond (t : DateTime) : Nat :=
  if t.time.second = 60 then 1000000000 + t.time.nanosecond else t.time.nanosecond

end DateTime

end TypedRoutes.Calendar
