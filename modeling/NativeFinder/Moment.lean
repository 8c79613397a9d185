import NativeFinder.Text.Basic

/-!
# Days and moments

Settings may hold days of the calendar and moments of time. A `Day` is one that there is, from
the first year to the year 9999. A `Moment` is a time of a day, to the microsecond, and may tell
how far its clock is ahead of universal time; a moment that does is an **instant**, and clocks
with different offsets may show the same one.

The text of a day or moment is its date and time with dashes and colons, and a message displays
it as the numbers that it is made of.
-/

namespace NativeFinder

/-! ### Days -/

/-- Why there is no such day or moment. -/
inductive MomentError where
  | year (year : Nat)
  | month
  | day
  | hour
  | minute
  | second
  /-- The clock is a day or more ahead or behind, by this number of minutes. -/
  | offset (minutes : Int)
deriving DecidableEq, Inhabited

/-- The number of days of a month. -/
def daysOfMonth (year month : Nat) : Nat :=
  let isLeap := year % 4 == 0 && (year % 100 != 0 || year % 400 == 0)
  if month = 2 then if isLeap then 29 else 28
  else if month ∈ [4, 6, 9, 11] then 30
  else 31

/-- A day of the calendar. -/
structure Day where
  year : Nat
  month : Nat
  day : Nat
  year_mem : 1 ≤ year ∧ year ≤ 9999
  month_mem : 1 ≤ month ∧ month ≤ 12
  day_mem : 1 ≤ day ∧ day ≤ daysOfMonth year month
deriving DecidableEq

namespace Day

/-- The day with the given numbers, if there is one. -/
def of (year month day : Nat) : Except MomentError Day :=
  if hyear : 1 ≤ year ∧ year ≤ 9999 then
    if hmonth : 1 ≤ month ∧ month ≤ 12 then
      if hday : 1 ≤ day ∧ day ≤ daysOfMonth year month then
        .ok ⟨year, month, day, hyear, hmonth, hday⟩
      else .error .day
    else .error .month
  else .error (.year year)

/-- The number of the day, counted from the first day of the first year. -/
def ordinal (d : Day) : Nat :=
  let years := d.year - 1
  let daysOfYears := 365 * years + years / 4 - years / 100 + years / 400
  let daysOfMonths := (List.range (d.month - 1)).foldl (fun n m => n + daysOfMonth d.year (m + 1)) 0
  daysOfYears + daysOfMonths + d.day

/-- The date with dashes. -/
def toText (d : Day) : Text :=
  Text.padNat 4 d.year ++ "-" ++ Text.padNat 2 d.month ++ "-" ++ Text.padNat 2 d.day

/-- The numbers of the day. -/
def numbers (d : Day) : List Nat := [d.year, d.month, d.day]

/-- The day in a message. -/
def display (d : Day) : Text :=
  "datetime.date(" ++ Text.join ", " (d.numbers.map Text.ofNat) ++ ")"

end Day

/-! ### Moments -/

/-- The minutes of a day. -/
def minutesOfDay : Nat := 1440

/-- A time of a day. -/
structure Moment where
  day : Day
  hour : Nat
  minute : Nat
  second : Nat
  microsecond : Nat
  /-- The minutes by which the clock is ahead of universal time, if that is known. -/
  offset : Option Int
  hour_lt : hour < 24
  minute_lt : minute < 60
  second_lt : second < 60
  microsecond_lt : microsecond < 1000000
  offset_lt : ∀ minutes ∈ offset, minutes.natAbs < minutesOfDay
deriving DecidableEq

/-- A span of minutes in a message: its whole days, and the seconds of the rest. -/
def displayMinutes (minutes : Int) : Text :=
  let days := minutes / minutesOfDay
  let seconds := minutes % minutesOfDay * 60
  let parts : List Text :=
    (if days = 0 then [] else ["days=" ++ Text.ofInt days]) ++
      if seconds = 0 then [] else ["seconds=" ++ Text.ofInt seconds]
  "datetime.timedelta(" ++ (if parts.isEmpty then ['0'] else Text.join ", " parts) ++ ")"

namespace Moment

/-- The moment with the given numbers, if there is one: its clock, its day and its time are
looked at in this order. -/
def of (year month day hour minute second : Nat) (microsecond : Fin 1000000)
    (offset : Option Int) : Except MomentError Moment :=
  if hoffset : ∀ minutes ∈ offset, minutes.natAbs < minutesOfDay then do
    let day ← Day.of year month day
    if hhour : hour < 24 then
      if hminute : minute < 60 then
        if hsecond : second < 60 then
          .ok ⟨day, hour, minute, second, microsecond, offset, hhour, hminute, hsecond,
            microsecond.isLt, hoffset⟩
        else .error .second
      else .error .minute
    else .error .hour
  else .error (.offset (offset.getD 0))

/-- The microseconds up to a moment whose clock is known, counted from a fixed instant. -/
def instant? (m : Moment) : Option Int :=
  m.offset.map fun offset =>
    let minutes : Int := m.day.ordinal * minutesOfDay + m.hour * 60 + m.minute - offset
    (minutes * 60 + m.second) * 1000000 + m.microsecond

/-- The offset of a clock, as hours and minutes with a sign. -/
def offsetText (offset : Int) : Text :=
  (if offset < 0 then '-' else '+') ::
    (Text.padNat 2 (offset.natAbs / 60) ++ ":" ++ Text.padNat 2 (offset.natAbs % 60))

/-- The date and the time. -/
def toText (m : Moment) : Text :=
  m.day.toText ++ " " ++
    Text.join ":" ([m.hour, m.minute, m.second].map (Text.padNat 2)) ++
      (if m.microsecond = 0 then [] else '.' :: Text.padNat 6 m.microsecond) ++
        (m.offset.map offsetText).getD []

/-- The clock of a moment in a message. -/
def displayOffset (offset : Int) : Text :=
  let clock : Text :=
    if offset = 0 then "datetime.timezone.utc"
    else "datetime.timezone(" ++ displayMinutes offset ++ ")"
  "tzinfo=" ++ clock

/-- The moment in a message. Seconds and microseconds are left out where they are nothing. -/
def display (m : Moment) : Text :=
  let fine :=
    if m.microsecond ≠ 0 then [m.second, m.microsecond]
    else if m.second ≠ 0 then [m.second]
    else []
  let numbers := (m.day.numbers ++ [m.hour, m.minute] ++ fine).map Text.ofNat
  "datetime.datetime(" ++ Text.join ", " (numbers ++ (m.offset.map displayOffset).toList) ++ ")"

end Moment

namespace MomentError

/-- The wording of the errors. -/
def message : MomentError → Text
  | .year n => "year " ++ Text.ofNat n ++ " is out of range"
  | .month => "month must be in 1..12"
  | .day => "day is out of range for month"
  | .hour => "hour must be in 0..23"
  | .minute => "minute must be in 0..59"
  | .second => "second must be in 0..59"
  | .offset minutes =>
    "offset must be a timedelta strictly between -timedelta(hours=24) and " ++
      "timedelta(hours=24), not " ++ displayMinutes minutes ++ "."

end MomentError

end NativeFinder
