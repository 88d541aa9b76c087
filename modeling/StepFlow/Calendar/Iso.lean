import StepFlow.Calendar.Basic

/-! Dates and moments in the notation of ISO 8601, and as literals. -/
namespace StepFlow

def padded (width n : Nat) : String :=
  let ds := Nat.toDigits 10 n
  String.ofList (List.replicate (width - ds.length) '0' ++ ds)

namespace Date

def toIso (d : Date) : String := s!"{padded 4 d.year}-{padded 2 d.month}-{padded 2 d.day}"

def literal (d : Date) : String := s!"datetime.date({d.year}, {d.month}, {d.day})"

end Date

namespace Moment

/-- Hours and minutes of an offset, with seconds and microseconds only where there are any. -/
def offsetText (o : Int) : String :=
  let n := o.natAbs
  let seconds := n / 1000000
  let fraction := n % 1000000
  (if o < 0 then "-" else "+") ++ padded 2 (seconds / 3600) ++ ":" ++
    padded 2 (seconds / 60 % 60) ++
    (if seconds % 60 ≠ 0 ∨ fraction ≠ 0 then ":" ++ padded 2 (seconds % 60) else "") ++
    (if fraction ≠ 0 then "." ++ padded 6 fraction else "")

def toIso (m : Moment) (separator : String) (wholeSeconds : Bool) : String :=
  m.date.toIso ++ separator ++ padded 2 m.hour ++ ":" ++ padded 2 m.minute ++
    ":" ++ padded 2 m.second ++
    (if wholeSeconds ∨ m.microsecond = 0 then "" else "." ++ padded 6 m.microsecond) ++
    (m.offset.map offsetText).getD ""

/-- A span of time as whole days, seconds and microseconds, only the days negative. -/
def spanLiteral (microseconds : Int) : String :=
  let days := microseconds / dayLength
  let rest := (microseconds % dayLength).toNat
  let parts := (if days ≠ 0 then [s!"days={days}"] else []) ++
    (if rest / 1000000 ≠ 0 then [s!"seconds={rest / 1000000}"] else []) ++
    (if rest % 1000000 ≠ 0 then [s!"microseconds={rest % 1000000}"] else [])
  "datetime.timedelta(" ++ (if parts.isEmpty then "0" else ", ".intercalate parts) ++ ")"

def offsetLiteral (o : Int) : String :=
  if o = 0 then "datetime.timezone.utc" else s!"datetime.timezone({spanLiteral o})"

def literal (m : Moment) : String :=
  let d := m.date
  let tail := if m.microsecond ≠ 0 then [toString m.second, toString m.microsecond]
    else if m.second ≠ 0 then [toString m.second] else []
  let parts := [d.year, d.month, d.day, m.hour, m.minute].map toString ++ tail ++
    (m.offset.map fun o => s!"tzinfo={offsetLiteral o}").toList
  "datetime.datetime(" ++ ", ".intercalate parts ++ ")"

end Moment

def CalendarIssue.message : CalendarIssue → String
  | .year n => s!"year {n} is out of range"
  | .month => "month must be in 1..12"
  | .day => "day is out of range for month"
  | .hour => "hour must be in 0..23"
  | .minute => "minute must be in 0..59"
  | .second => "second must be in 0..59"
  | .offset o =>
    "offset must be a timedelta strictly between -timedelta(hours=24) and " ++
      "timedelta(hours=24), not " ++ Moment.spanLiteral o ++ "."

namespace Iso

def digits? (n : Nat) (cs : List Char) : Option (Nat × List Char) :=
  let ds := cs.take n
  if ds.length = n && ds.all Char.isDigit then
    some (ds.foldl (fun v c => v * 10 + (c.toNat - 48)) 0, cs.drop n)
  else none

structure Clock where
  hour : Nat
  minute : Nat := 0
  second : Nat := 0
  microsecond : Nat := 0
  complete : Bool := true

def Clock.seconds (c : Clock) : Nat := (c.hour * 60 + c.minute) * 60 + c.second

/-- How a clock goes on after one of its numbers. -/
inductive ClockRest where
  /-- It is over; a single character may be left. -/
  | over (complete : Bool)
  | number (cs : List Char)
  | fraction (cs : List Char)
  | malformed

/-- What follows a number: the next one behind a colon, or at once if there are no colons; a
fraction behind its mark, and after the last number in place of a next one. -/
def clockRest (colons last : Bool) (cs : List Char) : ClockRest :=
  match cs with
  | [] => .over true
  | [c] => if c.toNat < 128 then .over false else .malformed
  | c :: rest =>
    if colons && c == ':' then (if last then .fraction rest else .number rest)
    else if c == '.' || c == ',' then .fraction rest
    else if colons then .malformed
    else if last then .fraction cs
    else .number cs

def withFraction? (c : Clock) (cs : List Char) : Option Clock := do
  let places := min 6 cs.length
  let (n, rest) ← digits? places cs
  some { c with
    microsecond := n * tenTo (6 - places), complete := (rest.dropWhile Char.isDigit).isEmpty }

/-- Hours, minutes, seconds and a fraction; each part may be left out. -/
def clock? (cs : List Char) : Option Clock := do
  let (hour, cs) ← digits? 2 cs
  let colons := cs.head? == some ':'
  match clockRest colons false cs with
  | .over complete => some { hour, complete }
  | .fraction cs => withFraction? { hour } cs
  | .malformed => none
  | .number cs => do
    let (minute, cs) ← digits? 2 cs
    match clockRest colons false cs with
    | .over complete => some { hour, minute, complete }
    | .fraction cs => withFraction? { hour, minute } cs
    | .malformed => none
    | .number cs => do
      let (second, cs) ← digits? 2 cs
      match clockRest colons true cs with
      | .over complete => some { hour, minute, second, complete }
      | .fraction cs => withFraction? { hour, minute, second } cs
      | _ => none

def isOffsetMark (c : Char) : Bool := c == '+' || c == '-' || c == 'Z'

/-- An offset: `Z`, or a sign and a clock. One of less than a second is none at all. -/
def offset? : List Char → Option Int
  | ['Z'] => some 0
  | sign :: cs => do
    let clock ← if sign == 'Z' then none else clock? cs
    if !clock.complete then none
    else if clock.seconds = 0 then some 0
    else
      let n : Int := clock.seconds * 1000000 + clock.microsecond
      some (if sign == '-' then -n else n)
  | [] => none

/-- A time of day with the offset that may follow it. Only before an offset may it have a character
too many. -/
def time? (cs : List Char) : Option (Clock × Option Int) := do
  let clock ← clock? (cs.takeWhile fun c => !isOffsetMark c)
  match cs.dropWhile fun c => !isOffsetMark c with
  | [] => if clock.complete then some (clock, none) else none
  | zone => do some (clock, some (← offset? zone))

/-- The length of the date at the front: of year, month and day, or of year, week and perhaps a
weekday; with hyphens or without. Where a weekday and an hour are equally possible, an even number
of digits decides, and after a hyphen the second digit. -/
def dateLength (cs : List Char) : Nat :=
  if cs.length = 7 then 7
  else match cs.drop 4 with
    | '-' :: 'W' :: _ => match cs.drop 8 with
      | '-' :: _ :: c :: _ => if c.isDigit then 8 else 10
      | '-' :: _ => 10
      | _ => 8
    | '-' :: _ => 10
    | 'W' :: _ =>
      let n := 7 + ((cs.drop 7).takeWhile Char.isDigit).length
      if n < 9 then n else if n % 2 = 0 then 7 else 8
    | _ => 8

def hyphen? (used : Bool) (cs : List Char) : Option (List Char) :=
  if used then (match cs with | '-' :: rest => some rest | _ => none) else some cs

/-- The day of a week of a year; none where there is no such week or day. The year 0 has weeks, but
no months. -/
def weekDate? (year week day : Nat) : Option (Except CalendarIssue Date) :=
  if week = 0 ∨ Date.weeksIn year < week ∨ day = 0 ∨ 7 < day then none
  else if year = 0 then some (.error .month)
  else some (Date.ofDayOffset year (Date.firstMonday year + ((week - 1) * 7 + (day - 1) : Nat)))

/-- A date and nothing else. The numbers of year, month and day may still be out of range. -/
def date? (cs : List Char) : Option (Except CalendarIssue Date) := do
  let (year, cs) ← digits? 4 cs
  let hyphens := cs.head? == some '-'
  let cs ← hyphen? hyphens cs
  match cs with
  | 'W' :: cs => do
    let (week, cs) ← digits? 2 cs
    if cs.isEmpty then weekDate? year week 1
    else do
      let (day, _) ← digits? 1 (← hyphen? hyphens cs)
      weekDate? year week day
  | cs => do
    let (month, cs) ← digits? 2 cs
    let (day, cs) ← digits? 2 (← hyphen? hyphens cs)
    if cs.isEmpty then some (Date.make year month day) else none

/-- A date, alone or with a time of day behind one character of any kind. -/
def parts? (cs : List Char) : Option (Except CalendarIssue Date × Option (Clock × Option Int)) := do
  let n := dateLength cs
  let date ← date? (cs.take n)
  match cs.drop n with
  | [] => some (date, none)
  | _ :: time => do some (date, some (← time? time))

inductive Defect where
  /-- It is not in the notation. -/
  | malformed
  | calendar (issue : CalendarIssue)
deriving DecidableEq, Repr

def moment (s : String) : Except Defect Moment :=
  match parts? s.toList with
  | none => .error .malformed
  | some (date, time) => Except.mapError Defect.calendar <| do
    let (clock, offset) := time.getD (⟨0, 0, 0, 0, true⟩, none)
    if let some o := offset then Moment.checkOffset o
    let date ← date
    Moment.make date.year date.month date.day clock.hour clock.minute
      clock.second clock.microsecond offset

end Iso
end StepFlow
