import Keepalive.Toml.Scan
import Keepalive.Value

/-!
# Dates and times of a document

Dates `1979-05-27`, times `07:32:00.5`, and both with a letter `T` or a space between them and an optional offset from
universal time. A reader takes the longest date or time at the front. Whether the day is in the calendar is asked afterwards.
-/

namespace Keepalive.Toml

/-- A number of exactly so many ASCII digits, from a least to a greatest. -/
def fixed? (count least greatest : Nat) (s : List Char) : Option (Nat × List Char) :=
  let digits := s.take count
  let value := Nat.ofDigitChars 10 digits 0
  if digits.length = count ∧ digits.all Char.isDigit ∧ least ≤ value ∧ value ≤ greatest then some (value, s.drop count)
  else none

/-- Passes over a character that must be next. -/
def after? (c : Char) : List Char → Option (List Char)
  | d :: r => if c = d then some r else none
  | [] => none

/-- Year, month and day. -/
def date? (s : List Char) : Option (Date × List Char) := do
  let (year, s) ← fixed? 4 0 9999 s
  let s ← after? '-' s
  let (month, s) ← fixed? 2 1 12 s
  let s ← after? '-' s
  let (day, s) ← fixed? 2 1 31 s
  pure (⟨year, month, day⟩, s)

/-- The millionths behind a point, if there is one with digits behind it; digits after the sixth do not count. -/
def micros : List Char → Nat × List Char
  | '.' :: c :: r =>
    if c.isDigit then
      let digits := (c :: r).takeWhile Char.isDigit
      let kept := digits.take 6
      (Nat.ofDigitChars 10 kept 0 * Numeral.weight 10 (6 - kept.length), (c :: r).dropWhile Char.isDigit)
    else (0, '.' :: c :: r)
  | s => (0, s)

/-- Hour, minute, second and millionths. -/
def time? (s : List Char) : Option (Time × List Char) := do
  let (hour, s) ← fixed? 2 0 23 s
  let s ← after? ':' s
  let (minute, s) ← fixed? 2 0 59 s
  let s ← after? ':' s
  let (second, s) ← fixed? 2 0 59 s
  let (micro, s) := micros s
  pure (⟨hour, minute, second, micro⟩, s)

/-- An offset in hours and minutes behind a sign. -/
def signedOffset? : List Char → Option (Int × List Char)
  | c :: s =>
    if c = '+' ∨ c = '-' then do
      let (hours, s) ← fixed? 2 0 23 s
      let s ← after? ':' s
      let (minutes, s) ← fixed? 2 0 59 s
      let size := hours * 60 + minutes
      pure (if c = '-' then -(size : Int) else size, s)
    else none
  | [] => none

/-- An offset from universal time, if there is one. -/
def offset (s : List Char) : Option Int × List Char :=
  match s with
  | 'Z' :: r => (some 0, r)
  | 'z' :: r => (some 0, r)
  | s =>
    match signedOffset? s with
    | some (minutes, r) => (some minutes, r)
    | none => (none, s)

/-- The time behind a date, if there is one. -/
def timeAfterDate? : List Char → Option (Time × List Char)
  | c :: s => if c = 'T' ∨ c = 't' ∨ c = ' ' then time? s else none
  | [] => none

/-- A date, or a date and a time. -/
def dateOrMoment? (s : List Char) : Option (Except Fault Value × List Char) := do
  let (date, r) ← date? s
  let valid (value : Value) : Except Fault Value := if date.isInCalendar then .ok value else .error .malformed
  match timeAfterDate? r with
  | none => pure (valid (.date date), r)
  | some (time, r) =>
    let (offset, r) := offset r
    pure (valid (.moment ⟨date, time, offset⟩), r)

end Keepalive.Toml
