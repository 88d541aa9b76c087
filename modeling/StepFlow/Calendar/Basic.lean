import StepFlow.Number.Basic

/-! Dates and moments of the proleptic Gregorian calendar, with the checks that make one out of
numbers. -/
namespace StepFlow

structure Date where
  year : Nat
  month : Nat
  day : Nat
deriving DecidableEq, Repr, Inhabited

/-- A date with a time of day and, if known, the offset from universal time in microseconds. -/
structure Moment where
  date : Date
  hour : Nat := 0
  minute : Nat := 0
  second : Nat := 0
  microsecond : Nat := 0
  offset : Option Int := none
deriving DecidableEq, Repr, Inhabited

inductive CalendarIssue where
  | year (n : Nat)
  | month
  | day
  | hour
  | minute
  | second
  | offset (microseconds : Int)
deriving DecidableEq, Repr

namespace Date

def isLeap (year : Nat) : Bool := year % 4 == 0 && (year % 100 != 0 || year % 400 == 0)

def daysIn (year month : Nat) : Nat :=
  if month = 2 then if isLeap year then 29 else 28
  else if month ∈ [4, 6, 9, 11] then 30
  else 31

def daysInYear (year : Nat) : Nat := if isLeap year then 366 else 365

def daysBefore (year : Nat) : Nat :=
  let y := year - 1
  y * 365 + y / 4 - y / 100 + y / 400

/-- The weekday on which a year starts, from 0 for Monday on. -/
def firstWeekday (year : Nat) : Nat := daysBefore year % 7

def make (year month day : Nat) : Except CalendarIssue Date :=
  if year = 0 ∨ 9999 < year then .error (.year year)
  else if month = 0 ∨ 12 < month then .error .month
  else if day = 0 ∨ daysIn year month < day then .error .day
  else .ok ⟨year, month, day⟩

def splitDays (year : Nat) : List Nat → Nat → Nat × Nat
  | [], days => (12, days + 32)
  | month :: months, days =>
    if days < daysIn year month then (month, days + 1)
    else splitDays year months (days - daysIn year month)

/-- The day that lies so many days after the first day of a year, or before it; in the year itself
or next to it. -/
def ofDayOffset (year : Nat) (offset : Int) : Except CalendarIssue Date :=
  let (month, day) := splitDays year ((List.range 12).map (· + 1)) offset.toNat
  if offset < 0 then make (year - 1) 12 (32 + offset).toNat
  else if daysInYear year ≤ offset.toNat then make (year + 1) 1 (offset.toNat - daysInYear year + 1)
  else make year month day

/-- A year has 53 weeks if it starts on a Thursday, or on a Wednesday and is a leap year; else 52,
as has the year 0. -/
def weeksIn (year : Nat) : Nat :=
  if year = 0 then 52
  else if firstWeekday year = 3 ∨ (firstWeekday year = 2 ∧ isLeap year) then 53 else 52

/-- The offset of the Monday of the first week: the week that holds the first Thursday of the
year. -/
def firstMonday (year : Nat) : Int :=
  if firstWeekday year ≤ 3 then -(firstWeekday year : Int) else 7 - firstWeekday year

end Date

namespace Moment

def dayLength : Int := 86400000000

/-- An offset has to be less than a day. -/
def checkOffset (o : Int) : Except CalendarIssue Unit :=
  if o ≤ -dayLength ∨ dayLength ≤ o then .error (.offset o) else .ok ()

/-- A moment on a valid date. The offset is the first thing checked. -/
def make (year month day hour minute second microsecond : Nat) (offset : Option Int) :
    Except CalendarIssue Moment := do
  if let some o := offset then checkOffset o
  let date ← Date.make year month day
  if 23 < hour then throw .hour
  if 59 < minute then throw .minute
  if 59 < second then throw .second
  return { date, hour, minute, second, microsecond, offset }

/-- The microseconds from the start of the calendar in universal time; a moment without offset
counts as being there. -/
def instant (m : Moment) : Int :=
  let days := Date.daysBefore m.date.year +
    total ((List.range (m.date.month - 1)).map fun k => Date.daysIn m.date.year (k + 1)) +
    m.date.day
  (((days * 24 + m.hour) * 60 + m.minute) * 60 + m.second : Nat) * 1000000 +
    m.microsecond - m.offset.getD 0

def epoch : Moment := { date := ⟨1970, 1, 1⟩, offset := some 0 }

end Moment
end StepFlow
