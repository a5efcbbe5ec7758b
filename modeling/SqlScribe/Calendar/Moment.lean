/-!
# Dates and times of day

The proleptic Gregorian calendar and the time of day to the nanosecond. A leap second is the second
after the 59th of a minute and keeps counting its nanoseconds.
-/

namespace SqlScribe

/-- Leap years of the Gregorian calendar, year 0 included. -/
def isLeapYear (year : Int) : Bool := year % 4 = 0 && (year % 100 ≠ 0 || year % 400 = 0)

/-- The number of days of a month. -/
def daysInMonth (year : Int) (month : Nat) : Nat :=
  match month with
  | 2 => if isLeapYear year then 29 else 28
  | 4 | 6 | 9 | 11 => 30
  | _ => 31

/-- A day of the calendar. -/
structure Date where
  year : Int
  month : Nat
  day : Nat
  year_in_range : -262143 ≤ year ∧ year ≤ 262142
  month_in_range : 1 ≤ month ∧ month ≤ 12
  day_in_range : 1 ≤ day ∧ day ≤ daysInMonth year month
deriving DecidableEq

namespace Date

/-- The day with these numbers, if there is one. -/
def of? (year : Int) (month day : Nat) : Option Date :=
  if h : (-262143 ≤ year ∧ year ≤ 262142) ∧ (1 ≤ month ∧ month ≤ 12) ∧
      (1 ≤ day ∧ day ≤ daysInMonth year month) then
    some ⟨year, month, day, h.1, h.2.1, h.2.2⟩
  else none

/-- The first day of the year 1. -/
def first : Date := ⟨1, 1, 1, by decide, by decide, by decide⟩

/-- Where a day stands among all days. -/
def rank (d : Date) : Int := (d.year * 13 + d.month) * 32 + d.day

end Date

/-- A time of day. -/
structure Time where
  hour : Nat
  minute : Nat
  second : Nat
  nano : Nat
  hour_lt : hour < 24
  minute_lt : minute < 60
  second_lt : second < 60
  nano_in_range : nano < 1000000000 ∨ second = 59 ∧ nano < 2000000000
deriving DecidableEq

namespace Time

/-- The time with these numbers, if there is one. -/
def of? (hour minute second nano : Nat) : Option Time :=
  if h : hour < 24 ∧ minute < 60 ∧ second < 60 ∧
      (nano < 1000000000 ∨ second = 59 ∧ nano < 2000000000) then
    some ⟨hour, minute, second, nano, h.1, h.2.1, h.2.2.1, h.2.2.2⟩
  else none

/-- The time as a clock shows it: second 60 is the leap second. -/
def ofClock? (hour minute second nano : Nat) : Option Time :=
  if second = 60 then of? hour minute 59 (nano + 1000000000) else of? hour minute second nano

def midnight : Time := ⟨0, 0, 0, 0, by decide, by decide, by decide, by decide⟩

/-- The second as a clock shows it. -/
def clockSecond (t : Time) : Nat := t.second + t.nano / 1000000000

/-- The nanoseconds past the second that a clock shows. -/
def fraction (t : Time) : Nat := t.nano % 1000000000

/-- Where a time stands among all times of a day. -/
def rank (t : Time) : Nat := ((t.hour * 60 + t.minute) * 60 + t.second) * 2000000000 + t.nano

end Time

/-- A time of a day. -/
structure DateTime where
  date : Date
  time : Time
deriving DecidableEq

namespace DateTime

/-- The beginning of a day. -/
def startOf (d : Date) : DateTime := ⟨d, .midnight⟩

/-- Where a moment stands among all moments. -/
def rank (m : DateTime) : Int := m.date.rank * 172800000000000 + m.time.rank

end DateTime

end SqlScribe
