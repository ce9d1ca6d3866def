/-!
# Dates and times in TOML

A moment is a day, a time of day or both.  Only a moment that has both may say
how far its clock is ahead of universal time.  Whatever its spelling, a moment
has one text: a `T` in front of the time, at most nine places of a second and
no needless zero behind them.
-/

namespace LojbanTree

namespace Toml

/-- A day of the calendar. -/
structure Day where
  year : Nat
  month : Nat
  day : Nat
  deriving DecidableEq, Repr

/-- A time of day. -/
structure Clock where
  hour : Nat
  minute : Nat
  second : Nat
  /-- The digits behind the point of the seconds. -/
  places : List Char
  deriving DecidableEq, Repr

/-- How far a clock is ahead of universal time. -/
inductive Offset where
  | universal
  | minutes (count : Int)
  deriving DecidableEq, Repr

/-- A moment. -/
inductive Moment where
  | day (date : Day)
  | clock (time : Clock)
  | instant (date : Day) (time : Clock) (offset? : Option Offset)
  deriving DecidableEq, Repr

/-- A number with zeros in front of it up to a width. -/
def zeroPadded (width number : Nat) : String :=
  let digits := Nat.toDigits 10 number
  String.ofList (List.replicate (width - digits.length) '0' ++ digits)

/-- The text of a day. -/
def Day.text (day : Day) : String :=
  "-".intercalate [zeroPadded 4 day.year, zeroPadded 2 day.month,
    zeroPadded 2 day.day]

/-- The text of a time of day. -/
def Clock.text (clock : Clock) : String :=
  ":".intercalate
      [zeroPadded 2 clock.hour, zeroPadded 2 clock.minute,
        zeroPadded 2 clock.second] ++
    if clock.places.isEmpty then "" else "." ++ String.ofList clock.places

/-- The text of an offset. -/
def Offset.text : Offset → String
  | .universal => "Z"
  | .minutes count =>
      (if count < 0 then "-" else "+") ++
        zeroPadded 2 (count.natAbs / 60) ++ ":" ++ zeroPadded 2 (count.natAbs % 60)

/-- The text of a moment. -/
def Moment.text : Moment → String
  | .day date => date.text
  | .clock time => time.text
  | .instant date time offset? =>
      date.text ++ "T" ++ time.text ++ (offset?.map Offset.text).getD ""

/-- The number of days of a month. -/
def daysOfMonth (year month : Nat) : Nat :=
  if month = 2 then
    if year % 4 = 0 ∧ (year % 100 ≠ 0 ∨ year % 400 = 0) then 29 else 28
  else if [4, 6, 9, 11].contains month then 30
  else 31

/-- The number that exactly so many digits at the start of a text spell. -/
def number? (width : Nat) (text : List Char) : Option (Nat × List Char) :=
  let digits := text.take width
  if digits.length = width ∧ digits.all Char.isDigit then
    some (Nat.ofDigitChars 10 digits 0, text.drop width)
  else
    none

/-- A text behind the given character. -/
def behind? (mark : Char) : List Char → Option (List Char)
  | char :: rest => if char = mark then some rest else none
  | [] => none

/-- The day at the start of a text. -/
def day? (text : List Char) : Option (Day × List Char) := do
  let (year, rest) ← number? 4 text
  let (month, rest) ← number? 2 (← behind? '-' rest)
  let (day, rest) ← number? 2 (← behind? '-' rest)
  if 1 ≤ month ∧ month ≤ 12 ∧ 1 ≤ day ∧ day ≤ daysOfMonth year month then
    some (⟨year, month, day⟩, rest)
  else
    none

/-- Digits up to the last one that is not zero. -/
def withoutLastZeros (digits : List Char) : List Char :=
  (digits.reverse.dropWhile (· == '0')).reverse

/-- The places behind a point, as far as they count, at the start of a text. -/
def places (text : List Char) : List Char × List Char :=
  match text with
  | '.' :: rest =>
      match rest.takeWhile Char.isDigit with
      | [] => ([], text)
      | digits => (withoutLastZeros (digits.take 9), rest.dropWhile Char.isDigit)
  | _ => ([], text)

/-- The time of day at the start of a text.  A minute may have a leap second. -/
def clock? (text : List Char) : Option (Clock × List Char) := do
  let (hour, rest) ← number? 2 text
  let (minute, rest) ← number? 2 (← behind? ':' rest)
  let (second, rest) ← number? 2 (← behind? ':' rest)
  let (places, rest) := places rest
  if hour ≤ 23 ∧ minute ≤ 59 ∧ second ≤ 60 then
    some (⟨hour, minute, second, places⟩, rest)
  else
    none

/-- The offset that hours and minutes at the start of a text spell. -/
def minutes? (sign : Int) (text : List Char) : Option (Offset × List Char) := do
  let (hour, rest) ← number? 2 text
  let (minute, rest) ← number? 2 (← behind? ':' rest)
  if hour ≤ 23 ∧ minute ≤ 59 then
    some (.minutes (sign * (hour * 60 + minute : Nat)), rest)
  else
    none

/-- The offset at the start of a text. -/
def offset? : List Char → Option (Offset × List Char)
  | 'Z' :: rest | 'z' :: rest => some (.universal, rest)
  | '+' :: rest => minutes? 1 rest
  | '-' :: rest => minutes? (-1) rest
  | _ => none

/-- The time of day behind what separates it from the day. -/
def clockOfDay? : List Char → Option (Clock × List Char)
  | 'T' :: rest | 't' :: rest | ' ' :: rest => clock? rest
  | _ => none

/-- The moment at the start of a text. -/
def moment? (text : List Char) : Option (Moment × List Char) :=
  match day? text with
  | none => (clock? text).map fun (time, rest) => (.clock time, rest)
  | some (date, rest) =>
      match clockOfDay? rest with
      | none => some (.day date, rest)
      | some (time, rest) =>
          match offset? rest with
          | none => some (.instant date time none, rest)
          | some (offset, rest) => some (.instant date time (some offset), rest)

end Toml

end LojbanTree
