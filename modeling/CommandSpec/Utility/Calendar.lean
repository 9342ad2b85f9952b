import CommandSpec.Text.Integer

/-!
# Dates

A moment is counted in microseconds from the start of 1970. A date is a day of the calendar with a
time of day, all in the same time zone.

A moment is shown by a format in which a letter after `%` stands for a part of the date.
-/

namespace CommandSpec.Utility

/-- A day of the calendar and a time of day. -/
structure Date where
  year : Nat := 1970
  month : Nat := 1
  day : Nat := 1
  hour : Nat := 0
  minute : Nat := 0
  second : Nat := 0
  deriving DecidableEq, Repr, Inhabited

namespace Date

/-- The microseconds in a second. -/
def tick : Nat := 1000000

/-- The number of a day counted from the first of March of the year 0, in which every month before
the last one has a fixed place. -/
def dayNumber (year month day : Nat) : Nat :=
  let y := if month ≤ 2 then year - 1 else year
  let m := if month ≤ 2 then month + 9 else month - 3
  365 * y + y / 4 - y / 100 + y / 400 + (153 * m + 2) / 5 + (day - 1)

/-- The moment of a date. -/
def moment (d : Date) : Int :=
  let days : Int := dayNumber d.year d.month d.day - dayNumber 1970 1 1
  (days * 86400 + ((d.hour * 60 + d.minute) * 60 + d.second : Nat)) * tick

/-- The date of a moment. -/
def ofMoment (moment : Int) : Date :=
  let days := (moment / tick / 86400 + dayNumber 1970 1 1).toNat
  let seconds := (moment / tick % 86400).toNat
  let era := days / 146097
  let inEra := days % 146097
  let yearOfEra := (inEra - inEra / 1460 + inEra / 36524 - inEra / 146096) / 365
  let dayOfYear := inEra - (365 * yearOfEra + yearOfEra / 4 - yearOfEra / 100)
  let m := (5 * dayOfYear + 2) / 153
  let month := if m < 10 then m + 3 else m - 9
  { year := yearOfEra + 400 * era + (if month ≤ 2 then 1 else 0)
    month
    day := dayOfYear - (153 * m + 2) / 5 + 1
    hour := seconds / 3600
    minute := seconds / 60 % 60
    second := seconds % 60 }

/-- How many days a month has. -/
def monthLength (year month : Nat) : Nat :=
  let next := if month = 12 then dayNumber (year + 1) 1 1 else dayNumber year (month + 1) 1
  next - dayNumber year month 1

/-- Whether all parts are within their ranges. -/
def isPossible (d : Date) : Bool :=
  1 ≤ d.month && d.month ≤ 12 && 1 ≤ d.day && d.day ≤ monthLength d.year d.month && d.hour < 24
    && d.minute < 60 && d.second ≤ 60

/-- Digits cut into numbers of two. -/
def pairs : List Char → List Nat
  | a :: b :: cs => Text.digitsValue [a, b] :: pairs cs
  | _ => []

/-- Read `[[CC]YY]MMDDhhmm[.ss]`; without a year it is that of `now`. -/
def readStamp? (now : Int) (s : String) : Option Date := do
  let (main, second) ← match s.splitOn "." with
    | [main] => some (main, 0)
    | [main, ss] => do
      guard (ss.length = 2)
      some (main, ← Text.readDigits? ss.toList)
    | _ => none
  guard (main.toList.all Char.isDigit)
  let ofDay (year : Nat) : List Nat → Option Date
    | [month, day, hour, minute] => some { year, month, day, hour, minute, second }
    | _ => none
  let numbers := pairs main.toList
  let date ← match main.length, numbers with
    | 8, numbers => ofDay (ofMoment now).year numbers
    | 10, yy :: rest => ofDay (if yy < 69 then 2000 + yy else 1900 + yy) rest
    | 12, cc :: yy :: rest => ofDay (100 * cc + yy) rest
    | _, _ => none
  guard date.isPossible
  return date

/-- The names of the months. -/
def monthNames : List String :=
  ["January", "February", "March", "April", "May", "June", "July", "August", "September", "October",
    "November", "December"]

/-- The names of the days of the week. -/
def dayNames : List String :=
  ["Sunday", "Monday", "Tuesday", "Wednesday", "Thursday", "Friday", "Saturday"]

/-- The day of the week of a moment, counted from Sunday. -/
def dayOfWeek (moment : Int) : Nat :=
  ((moment / tick / 86400 + 4) % 7).toNat

/-- The day of the year of a date, counted from zero. -/
def dayOfYear (d : Date) : Nat :=
  dayNumber d.year d.month d.day - dayNumber d.year 1 1

/-- How many days a year has. -/
def yearLength (year : Nat) : Nat :=
  dayNumber (year + 1) 1 1 - dayNumber year 1 1

/-- The year and the week that a moment belongs to where weeks start on Monday and belong to the year that
their Thursday is in. -/
def week (moment : Int) : Nat × Nat :=
  let d := ofMoment moment
  let place := dayOfYear d + 3
  let fromMonday := (dayOfWeek moment + 6) % 7
  let thursday := place - fromMonday
  if place < fromMonday then (d.year - 1, (yearLength (d.year - 1) + place - fromMonday) / 7 + 1)
  else if thursday ≥ yearLength d.year then (d.year + 1, 1)
  else (d.year, thursday / 7 + 1)

end Date

/-! ## Formats -/

/-- A time zone without changes of the clock. -/
structure Zone where
  name : String := "UTC"
  /-- How many seconds it is ahead. -/
  ahead : Int := 0
  deriving DecidableEq, Repr, Inhabited

/-- Read a time of day such as `5`, `5:30` or `5:30:10` as seconds: it, and what is left. -/
def readHours? (cs : List Char) : Option (Nat × List Char) := do
  let hours := cs.takeWhile Char.isDigit
  let n ← Text.readDigits? hours
  let part (cs : List Char) : Nat × List Char := match cs with
    | ':' :: rest =>
      let digits := rest.takeWhile Char.isDigit
      (Text.digitsValue digits, rest.drop digits.length)
    | cs => (0, cs)
  let (minutes, rest) := part (cs.drop hours.length)
  let (seconds, rest) := part rest
  return (n * 3600 + minutes * 60 + seconds, rest)

/-- The zone that a text tells: a name and how far it is behind. -/
def Zone.read (text : String) : Zone :=
  let cs := text.toList
  let (name, rest) := match cs with
    | '<' :: cs => (cs.takeWhile (· ≠ '>'), (cs.dropWhile (· ≠ '>')).drop 1)
    | cs => (cs.takeWhile Char.isAlpha, cs.dropWhile Char.isAlpha)
  let (isEast, rest) := match rest with
    | '-' :: rest => (true, rest)
    | '+' :: rest => (false, rest)
    | rest => (false, rest)
  if text = "" || text = "UTC" || text = "GMT0" then { name := if text = "GMT0" then "GMT" else "UTC" }
  else
    match readHours? rest with
    | some (behind, []) =>
      if name.length ≥ 3 then { name := .ofList name, ahead := if isEast then behind else -(behind : Int) } else {}
    | _ => if name.length ≥ 3 then { name := .ofList name } else {}

/-- The zone that an environment chooses. -/
def Zone.ofEnvironment (environment : List (String × String)) : Zone :=
  Zone.read ((environment.lookup "TZ").getD "")

/-- What may stand between a `%` and its letter. -/
structure DateMarks where
  flags : List Char := []
  width : Option Nat := none
  colons : Nat := 0
  deriving DecidableEq, Repr, Inhabited

namespace DateMarks

/-- Read marks: they and the text after them. -/
def read (cs : List Char) : DateMarks × List Char :=
  let flags := cs.takeWhile "-_0^#+".toList.contains
  let cs := cs.drop flags.length
  let width := cs.takeWhile Char.isDigit
  let cs := cs.drop width.length
  let colons := cs.takeWhile (· = ':')
  let cs := cs.drop colons.length
  let cs := match cs with
    | 'E' :: c :: rest => if c.isAlpha then c :: rest else cs
    | 'O' :: c :: rest => if c.isAlpha then c :: rest else cs
    | cs => cs
  ({ flags, width := Text.readDigits? width, colons := colons.length }, cs)

/-- The flag that tells how a field is filled up, if there is one. -/
def filler (m : DateMarks) : Option Char :=
  m.flags.reverse.find? "-_0+".toList.contains

/-- A number in a field that by itself has a width and a character to fill it up. -/
def number (m : DateMarks) (width : Nat) (pad : Char) (n : Int) : List Char :=
  let sign := if n < 0 then ['-'] else []
  let digits := (toString n.natAbs).toList
  let width := m.width.getD width - sign.length
  let fill (c : Char) : List Char := List.replicate (width - digits.length) c
  match m.filler with
  | some '-' => sign ++ digits
  | some '_' => fill ' ' ++ sign ++ digits
  | none => if pad = ' ' then fill ' ' ++ sign ++ digits else sign ++ fill pad ++ digits
  | _ => sign ++ fill '0' ++ digits

/-- A text in a field; `lowers` tells whether it becomes small where its case is changed. -/
def text (m : DateMarks) (lowers : Bool) (cs : List Char) : List Char :=
  let cs := if m.flags.contains '#' then cs.map (if lowers then Char.toLower else Char.toUpper)
    else if m.flags.contains '^' then cs.map Char.toUpper else cs
  let pad := if m.filler = some '0' then '0' else ' '
  List.replicate (m.width.getD 0 - cs.length) pad ++ cs

end DateMarks

namespace Date

/-- The format that a letter is short for. -/
def format? : Char → Option String
  | 'c' => some "%a %b %e %H:%M:%S %Y"
  | 'D' => some "%m/%d/%y"
  | 'F' => some "%Y-%m-%d"
  | 'r' => some "%I:%M:%S %p"
  | 'R' => some "%H:%M"
  | 'T' => some "%H:%M:%S"
  | 'x' => some "%m/%d/%y"
  | 'X' => some "%H:%M:%S"
  | _ => none

/-- How many seconds a zone is ahead, with hours, minutes and seconds put together as so many colons tell. -/
def showAhead (colons : Nat) (ahead : Int) : List Char :=
  let n := ahead.natAbs
  let two (n : Nat) : String := .ofList (Text.paddedDigits 10 2 n)
  let sign := if ahead < 0 then "-" else "+"
  let hours := two (n / 3600)
  let minutes := two (n / 60 % 60)
  let text := match colons with
    | 0 => hours ++ minutes
    | 1 => hours ++ ":" ++ minutes
    | 2 => hours ++ ":" ++ minutes ++ ":" ++ two (n % 60)
    | _ => if n % 3600 = 0 then hours else hours ++ ":" ++ minutes
  (sign ++ text).toList

/-- What a letter with its marks stands for; `local'` is the moment as the clocks of the zone show it. -/
def part? (zone : Zone) (local' : Int) (m : DateMarks) (letter : Char) : Option (List Char) :=
  let d := ofMoment local'
  let monthName := ((monthNames[d.month - 1]?).getD "").toList
  let dayName := ((dayNames[dayOfWeek local']?).getD "").toList
  let twelve := if d.hour % 12 = 0 then 12 else d.hour % 12
  let number (width : Nat) (pad : Char) (n : Int) : Option (List Char) := some (m.number width pad n)
  let text (cs : List Char) : Option (List Char) := some (m.text false cs)
  match letter with
  | 'a' => text (dayName.take 3)
  | 'A' => text dayName
  | 'b' => text (monthName.take 3)
  | 'h' => text (monthName.take 3)
  | 'B' => text monthName
  | 'C' => number 2 '0' (d.year / 100 : Nat)
  | 'd' => number 2 '0' d.day
  | 'e' => number 2 ' ' d.day
  | 'g' => number 2 '0' ((week local').1 % 100 : Nat)
  | 'G' => number 4 '0' (week local').1
  | 'H' => number 2 '0' d.hour
  | 'I' => number 2 '0' twelve
  | 'j' => number 3 '0' (dayOfYear d + 1 : Nat)
  | 'k' => number 2 ' ' d.hour
  | 'l' => number 2 ' ' twelve
  | 'm' => number 2 '0' d.month
  | 'M' => number 2 '0' d.minute
  | 'n' => text ['\n']
  | 'N' =>
    let digits := Text.paddedDigits 10 9 ((local' % tick).toNat * 1000)
    let width := m.width.getD 9
    some (digits.take width ++ List.replicate (width - 9) '0')
  | 'p' => some (m.text true (if d.hour < 12 then "AM" else "PM").toList)
  | 'P' => some (m.text true (if d.hour < 12 then "am" else "pm").toList)
  | 'q' => number 1 '0' ((d.month - 1) / 3 + 1 : Nat)
  | 's' => number 1 '0' (local' / tick - zone.ahead)
  | 'S' => number 2 '0' d.second
  | 't' => text ['\t']
  | 'u' => number 1 '0' (if dayOfWeek local' = 0 then 7 else dayOfWeek local' : Nat)
  | 'U' => number 2 '0' ((dayOfYear d + 7 - dayOfWeek local') / 7 : Nat)
  | 'V' => number 2 '0' (week local').2
  | 'w' => number 1 '0' (dayOfWeek local')
  | 'W' => number 2 '0' ((dayOfYear d + 7 - (dayOfWeek local' + 6) % 7) / 7 : Nat)
  | 'y' => number 2 '0' (d.year % 100 : Nat)
  | 'Y' => number 4 '0' d.year
  | 'z' => some (m.text false (showAhead m.colons zone.ahead))
  | 'Z' => some (m.text true zone.name.toList)
  | '%' => some ['%']
  | _ => none

/-- A moment, as the clocks of a zone show it, in a format; at most `fuel` steps. -/
def writeFrom (zone : Zone) (local' : Int) : (fuel : Nat) → List Char → List Char
  | 0, cs => cs
  | _ + 1, [] => []
  | fuel + 1, '%' :: cs =>
    let (m, rest) := DateMarks.read cs
    match rest with
    | [] => '%' :: cs
    | letter :: rest =>
      let shown := match format? letter with
        | some format => m.text false (writeFrom zone local' fuel format.toList)
        | none => (part? zone local' m letter).getD ('%' :: cs.take (cs.length - rest.length))
      shown ++ writeFrom zone local' fuel rest
  | fuel + 1, c :: cs => c :: writeFrom zone local' fuel cs

/-- The moment of a year, month, day, hour, minute and second of which each may be beyond its range. -/
def ofParts (year month day hour minute second : Int) : Int :=
  let months := year * 12 + (month - 1)
  let start : Int := dayNumber (months / 12).toNat (months % 12 + 1).toNat 1 - dayNumber 1970 1 1
  ((((start + (day - 1)) * 24 + hour) * 60 + minute) * 60 + second) * tick

/-- A moment in a format, as the clocks of a zone show it. -/
def write (format : String) (moment : Int) (zone : Zone := {}) : String :=
  .ofList (writeFrom zone (moment + zone.ahead * tick) (format.length + 40) format.toList)

end Date

end CommandSpec.Utility
