import Datasheet.Calendar.Date

/-! # Moments

A moment is an instant told in local time with an offset from UTC. Two moments are compared as instants, so
the offset does not matter to the order, and a leap second comes after the last ordinary second of its
minute.
-/

namespace Datasheet.Calendar

/-- A local date and time of day with its offset in minutes. In a leap second, `second` is 59 and
    `nanosecond` counts on from 10⁹. -/
structure Moment where
  date : Date
  hour : Nat
  minute : Nat
  second : Nat
  nanosecond : Nat
  offset : Int
  deriving DecidableEq, Repr

namespace Moment

def secondOfDay (m : Moment) : Nat := 3600 * m.hour + 60 * m.minute + m.second

/-- Whole seconds from the start of 1970 in UTC. -/
def seconds (m : Moment) : Int :=
  86400 * m.date.dayNumber + m.secondOfDay - 60 * m.offset

def isBefore (m n : Moment) : Bool :=
  decide (m.seconds < n.seconds) || (m.seconds == n.seconds && decide (m.nanosecond < n.nanosecond))

/-- The instant falls on a day that can be told in UTC. -/
def isInRange (m : Moment) : Bool :=
  firstDay ≤ m.seconds / 86400 && m.seconds / 86400 ≤ lastDay

/-- The moment with the given local time, if the date exists, the year can be told and the offset is
    less than a day. Second 60 is the leap second of its minute. -/
def make? (date : Date) (hour minute second nanosecond : Nat) (offset : Int) : Option Moment :=
  if date.isValid && decide (-262143 ≤ date.year) && decide (date.year ≤ 262142)
      && decide (hour < 24) && decide (minute < 60) && decide (second ≤ 60)
      && decide (-1440 < offset) && decide (offset < 1440) then
    let m : Moment :=
      if second = 60 then ⟨date, hour, minute, 59, 1000000000 + nanosecond, offset⟩
      else ⟨date, hour, minute, second, nanosecond, offset⟩
    if m.isInRange then some m else none
  else none

end Moment

end Datasheet.Calendar
