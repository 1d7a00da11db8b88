import Keepalive.Text.Numeral

/-!
# Dates and times

Dates, times of day, and moments that are both, with or without an offset from universal time. Each has two texts: the plain
one stands alone (`1979-05-27 07:32:00+01:00`), the nested one stands for it inside a list or a table and spells out its parts.
-/

namespace Keepalive

/-- A day of the calendar. -/
structure Date where
  year : Nat
  month : Nat
  day : Nat
  deriving DecidableEq, Repr

/-- A time of day, to the millionth of a second. -/
structure Time where
  hour : Nat
  minute : Nat
  second : Nat
  micro : Nat
  deriving DecidableEq, Repr

/-- A time on a day, with an offset from universal time in minutes when one is known. -/
structure Moment where
  date : Date
  time : Time
  offset : Option Int
  deriving DecidableEq, Repr

namespace Date

/-- Years of three hundred and sixty-six days. -/
def isLeap (year : Nat) : Bool := year % 4 == 0 && (year % 100 != 0 || year % 400 == 0)

/-- The days of a month. -/
def daysIn (year month : Nat) : Nat :=
  if month = 2 then (if isLeap year then 29 else 28)
  else if month ∈ [4, 6, 9, 11] then 30
  else 31

/-- Is the date in the calendar? Years count from one to four digits. -/
def isInCalendar (d : Date) : Bool :=
  1 ≤ d.year && d.year ≤ 9999 && 1 ≤ d.month && d.month ≤ 12 && 1 ≤ d.day && d.day ≤ daysIn d.year d.month

/-- Year, month and day with hyphens between them. -/
def plain (d : Date) : String :=
  Numeral.padDecimal 4 d.year ++ "-" ++ Numeral.padDecimal 2 d.month ++ "-" ++ Numeral.padDecimal 2 d.day

/-- The numbers of a date in order. -/
def parts (d : Date) : List Nat := [d.year, d.month, d.day]

end Date

/-- A name and its arguments between parentheses. -/
def constructed (name : String) (arguments : List String) : String :=
  name ++ "(" ++ ", ".intercalate arguments ++ ")"

namespace Time

/-- Hour, minute and second with colons between them, and the millionths only when there are any. -/
def plain (t : Time) : String :=
  Numeral.padDecimal 2 t.hour ++ ":" ++ Numeral.padDecimal 2 t.minute ++ ":" ++ Numeral.padDecimal 2 t.second ++
    (if t.micro = 0 then "" else "." ++ Numeral.padDecimal 6 t.micro)

/-- The numbers of a time in order; zeros at the end are left out, but for hour and minute. -/
def parts (t : Time) : List Nat :=
  if t.micro ≠ 0 then [t.hour, t.minute, t.second, t.micro]
  else if t.second ≠ 0 then [t.hour, t.minute, t.second]
  else [t.hour, t.minute]

end Time

namespace Moment

/-- The sign of an offset, its hours and its minutes. -/
def offsetPlain (offset : Int) : String :=
  (if offset < 0 then "-" else "+") ++ Numeral.padDecimal 2 (offset.natAbs / 60) ++ ":" ++
    Numeral.padDecimal 2 (offset.natAbs % 60)

/-- The date and the time with a space between them, and the offset after them. -/
def plain (m : Moment) : String :=
  m.date.plain ++ " " ++ m.time.plain ++ (m.offset.map offsetPlain).getD ""

/-- An offset spelled out: whole days, negative before universal time, and the seconds after them. -/
def offsetNested (offset : Int) : String :=
  if offset = 0 then "datetime.timezone.utc"
  else
    let days := offset / 1440
    let seconds := offset % 1440 * 60
    let named (name : String) (n : Int) : List String := if n = 0 then [] else [name ++ "=" ++ Numeral.decimal n]
    constructed "datetime.timezone" [constructed "datetime.timedelta" (named "days" days ++ named "seconds" seconds)]

end Moment

/-- A list of numbers as arguments. -/
def numberArguments (parts : List Nat) : List String := parts.map fun (n : Nat) => Numeral.decimal n

/-- A date spelled out. -/
def Date.nested (d : Date) : String := constructed "datetime.date" (numberArguments d.parts)

/-- A time spelled out. -/
def Time.nested (t : Time) : String := constructed "datetime.time" (numberArguments t.parts)

/-- A moment spelled out. -/
def Moment.nested (m : Moment) : String :=
  constructed "datetime.datetime"
    (numberArguments (m.date.parts ++ m.time.parts) ++ (m.offset.map fun o => "tzinfo=" ++ offsetNested o).toList)

end Keepalive
