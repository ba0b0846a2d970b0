/-!
# Dates

A date in digits, year, month and day, and with it perhaps a time of the day and how far it is from
the common one.
-/

namespace Chip8.Yaml

/-- A time of the day. -/
structure DayTime where
  hour : Nat
  minute : Nat
  second : Nat
  /-- The minutes by which it is ahead of the common one. -/
  offset : Int
deriving DecidableEq, Repr

/-- A date, whether it exists or not. -/
structure Moment where
  year : Nat
  month : Nat
  day : Nat
  /-- The time of the day, if it is told. -/
  time : Option DayTime
deriving DecidableEq, Repr

namespace Moment

/-! ### Reading -/

/-- A number of at least `least` and at most `most` digits, and what follows it. -/
def digits? (least most : Nat) (cs : List Char) : Option (Nat × List Char) :=
  let ds := (cs.take most).takeWhile Char.isDigit
  if ds.length < least then none
  else some (ds.foldl (fun n c => 10 * n + (c.toNat - 48)) 0, cs.drop ds.length)

/-- What follows a character. -/
def behind? (sign : Char) : List Char → Option (List Char)
  | c :: cs => if c == sign then some cs else none
  | [] => none

/-- Whether a character is a blank. -/
def isBlank (c : Char) : Bool := c == ' ' || c == '\t'

/-- Whether nothing is left but a line break. -/
def ends (cs : List Char) : Bool := cs.isEmpty || cs == ['\n']

/-- The minutes behind a sign up to the end. -/
def offset? (cs : List Char) : Option Nat := do
  let (hours, cs) ← digits? 1 2 cs
  if ends cs then return 60 * hours
  let (minutes, cs) ← digits? 2 2 (← behind? ':' cs)
  if ends cs then some (60 * hours + minutes) else none

/-- How far a time is ahead of the common one, as the end of a text tells it. -/
def zone? (cs : List Char) : Option Int :=
  if ends cs then some 0
  else
    match cs.dropWhile isBlank with
    | 'Z' :: cs => if ends cs then some 0 else none
    | '+' :: cs => (offset? cs).map fun n => (n : Int)
    | '-' :: cs => (offset? cs).map fun n => -(n : Int)
    | _ => none

/-- The time of the day in what follows a date. -/
def time? (cs : List Char) : Option DayTime := do
  let blanks := cs.takeWhile isBlank
  let cs ←
    if blanks.isEmpty then (behind? 'T' cs).or (behind? 't' cs) else some (cs.drop blanks.length)
  let (hour, cs) ← digits? 1 2 cs
  let (minute, cs) ← digits? 2 2 (← behind? ':' cs)
  let (second, cs) ← digits? 2 2 (← behind? ':' cs)
  let cs := ((behind? '.' cs).map (·.dropWhile Char.isDigit)).getD cs
  return { hour, minute, second, offset := ← zone? cs }

/-- The date that a text writes. -/
def ofText? (s : String) : Option Moment := do
  let (year, cs) ← digits? 4 4 s.toList
  let (month, cs) ← digits? 1 2 (← behind? '-' cs)
  let (day, cs) ← digits? 1 2 (← behind? '-' cs)
  let date : Moment := { year, month, day, time := none }
  if ends cs then return date else return { date with time := some (← time? cs) }

/-! ### The calendar -/

/-- Whether a year has a day more. -/
def isLeap (year : Nat) : Bool := year % 4 == 0 && (year % 100 != 0 || year % 400 == 0)

/-- How many days a month has. -/
def daysIn (year month : Nat) : Nat :=
  if month == 2 then (if isLeap year then 29 else 28)
  else if [4, 6, 9, 11].contains month then 30
  else 31

/-- How reports show a stretch of time. -/
def stretch (minutes : Int) : String :=
  let days := minutes.fdiv 1440
  let seconds := 60 * minutes.fmod 1440
  let parts := (if days == 0 then [] else ["days=" ++ toString days])
    ++ (if seconds == 0 then [] else ["seconds=" ++ toString seconds])
  "datetime.timedelta(" ++ (if parts.isEmpty then "0" else ", ".intercalate parts) ++ ")"

/-- The report of a date that does not exist. -/
def fault? (m : Moment) : Option String :=
  let time := m.time.getD ⟨0, 0, 0, 0⟩
  if 1440 ≤ time.offset.natAbs then
    some ("offset must be a timedelta strictly between -timedelta(hours=24) and "
      ++ "timedelta(hours=24), not " ++ stretch time.offset ++ ".")
  else if m.year == 0 then some "year 0 is out of range"
  else if m.month == 0 || 12 < m.month then some "month must be in 1..12"
  else if m.day == 0 || daysIn m.year m.month < m.day then some "day is out of range for month"
  else if 23 < time.hour then some "hour must be in 0..23"
  else if 59 < time.minute then some "minute must be in 0..59"
  else if 59 < time.second then some "second must be in 0..59"
  else none

end Moment

end Chip8.Yaml
