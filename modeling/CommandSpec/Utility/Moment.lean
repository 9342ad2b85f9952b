import CommandSpec.Utility.Calendar

/-!
# Moments in words

A moment can be told by a day, a time of day, a day of the week, and spans such as `2 days ago`, in
almost any order. A text is cut into pieces, which are numbers, words and marks. Items are read from
the front of the pieces, and what they tell is gathered. Without a day it is the present one, and
without a time of day it is the start of the day, or the present time where only spans are told.
-/

namespace CommandSpec.Utility

/-- A piece of a text that tells a moment. -/
inductive MomentPiece where
  /-- Digits, perhaps with a sign and with more digits after a point. -/
  | number (sign : Option Char) (digits fraction : List Char)
  /-- Letters, all small. -/
  | word (name : String)
  | mark (c : Char)
  deriving DecidableEq, Repr

namespace MomentPiece

/-- Cut a text into pieces; at most `fuel` of them. -/
def cut : (fuel : Nat) → List Char → List MomentPiece
  | 0, _ => []
  | _ + 1, [] => []
  | fuel + 1, c :: cs =>
    let readNumber (sign : Option Char) (cs : List Char) : List MomentPiece :=
      let digits := cs.takeWhile Char.isDigit
      let rest := cs.drop digits.length
      match rest with
      | '.' :: d :: _ =>
        if d.isDigit then
          let fraction := (rest.drop 1).takeWhile Char.isDigit
          number sign digits fraction :: cut fuel (rest.drop (fraction.length + 1))
        else number sign digits [] :: cut fuel rest
      | _ => number sign digits [] :: cut fuel rest
    if c.isWhitespace then cut fuel cs
    else if c.isDigit then readNumber none (c :: cs)
    else if c.isAlpha then
      let isPart (c : Char) : Bool := c.isAlpha || c = '.'
      let letters := (c :: cs).takeWhile isPart
      word (.ofList ((letters.filter Char.isAlpha).map Char.toLower))
        :: cut fuel ((c :: cs).drop letters.length)
    else if c = '+' || c = '-' then
      let rest := cs.dropWhile Char.isWhitespace
      if (rest.headD ' ').isDigit then readNumber (some c) rest else cut fuel cs
    else mark c :: cut fuel cs

end MomentPiece

/-- What a text tells of a moment. -/
structure MomentParts where
  /-- The year, if it is told, the month and the day. -/
  date : Option (Option Nat × Nat × Nat) := none
  /-- The time of day in microseconds. -/
  time : Option Nat := none
  /-- How many seconds the time zone is ahead. -/
  zone : Option Int := none
  /-- A day of the week, and which one from now on. -/
  weekday : Option (Int × Nat) := none
  months : Int := 0
  days : Int := 0
  microseconds : Int := 0
  /-- Whether a span is told. -/
  shifted : Bool := false
  deriving Repr, Inhabited

namespace MomentParts

/-- The number of a month by its name or the start of it. -/
def monthOf? (name : String) : Option Nat :=
  if name = "sept" then some 9
  else
    (Date.monthNames.findIdx? fun m =>
      let small := m.toLower
      name = small || name.toList = small.toList.take 3).map (· + 1)

/-- The number of a day of the week by its name or the start of it. -/
def weekdayOf? (name : String) : Option Nat :=
  if name = "tues" then some 2
  else if name = "wednes" then some 3
  else if name = "thur" || name = "thurs" then some 4
  else
    Date.dayNames.findIdx? fun d =>
      let small := d.toLower
      name = small || name.toList = small.toList.take 3

/-- The parts with a span of so many units added, if the unit is known. -/
def shift? (p : MomentParts) (n : Int) (unit : String) : Option MomentParts :=
  let p := { p with shifted := true }
  let unit := if unit.length > 3 && unit.toList.getLast? = some 's' then
    String.ofList unit.toList.dropLast else unit
  let span (seconds : Int) : Option MomentParts :=
    some { p with microseconds := p.microseconds + n * seconds * Date.tick }
  match unit with
  | "year" => some { p with months := p.months + 12 * n }
  | "month" => some { p with months := p.months + n }
  | "fortnight" => some { p with days := p.days + 14 * n }
  | "week" => some { p with days := p.days + 7 * n }
  | "day" => some { p with days := p.days + n }
  | "hour" => span 3600
  | "minute" => span 60
  | "min" => span 60
  | "second" => span 1
  | "sec" => span 1
  | _ => none

/-- What a word such as `next` counts. -/
def ordinalOf? : String → Option Int
  | "last" => some (-1)
  | "this" => some 0
  | "next" => some 1
  | "first" => some 1
  | "third" => some 3
  | "fourth" => some 4
  | "fifth" => some 5
  | "sixth" => some 6
  | "seventh" => some 7
  | "eighth" => some 8
  | "ninth" => some 9
  | "tenth" => some 10
  | "eleventh" => some 11
  | "twelfth" => some 12
  | _ => none

/-- How many days from now a word such as `yesterday` is. -/
def dayShift? : String → Option Int
  | "now" => some 0
  | "today" => some 0
  | "yesterday" => some (-1)
  | "tomorrow" => some 1
  | _ => none

/-- How many seconds a time zone is ahead. -/
def zoneOf? : String → Option Int
  | "z" => some 0
  | "ut" => some 0
  | "utc" => some 0
  | "gmt" => some 0
  | "wet" => some 0
  | "cet" => some 3600
  | "eet" => some 7200
  | "est" => some (-18000)
  | "edt" => some (-14400)
  | "cst" => some (-21600)
  | "cdt" => some (-18000)
  | "mst" => some (-25200)
  | "mdt" => some (-21600)
  | "pst" => some (-28800)
  | "pdt" => some (-25200)
  | _ => none

/-- The parts with a day told, which may be told once. -/
def withDate? (p : MomentParts) (year : Option Nat) (month day : Nat) : Option MomentParts := do
  guard p.date.isNone
  return { p with date := some (year, month, day) }

/-- The parts with a time of day told, which may be told once; `half` is `am`, `pm` or nothing. -/
def withTime? (p : MomentParts) (hour minute second micro : Nat) (half : String) :
    Option MomentParts := do
  guard (p.time.isNone && minute < 60 && second ≤ 60)
  let hour ← match half with
    | "" => if hour < 24 then some hour else none
    | half =>
      if hour = 0 || hour > 12 then none
      else some (hour % 12 + if half = "pm" then 12 else 0)
  return { p with time := some (((hour * 60 + minute) * 60 + second) * Date.tick + micro) }

/-- A year by its digits: two of them stand for a year from 1969 on. -/
def yearOf (digits : List Char) : Nat :=
  let n := Text.digitsValue digits
  if digits.length ≠ 2 then n else if n < 69 then 2000 + n else 1900 + n

/-- Digits after a point as microseconds. -/
def microOf (fraction : List Char) : Nat :=
  Text.digitsValue ((fraction ++ List.replicate 6 '0').take 6)

/-- How many seconds a zone is ahead that is told by a sign and hours, perhaps with minutes. -/
def offsetOf (sign : Char) (digits minutes : List Char) : Int :=
  let n := Text.digitsValue digits
  let seconds : Nat := if !minutes.isEmpty then n * 3600 + Text.digitsValue minutes * 60
    else if digits.length ≤ 2 then n * 3600 else n / 100 * 3600 + n % 100 * 60
  if sign = '-' then -seconds else seconds

/-- A number that stands alone: a day without marks, a year, or a time of day. -/
def withNumber? (p : MomentParts) (digits : List Char) : Option MomentParts :=
  let n := Text.digitsValue digits
  match p.date with
  | some (none, month, day) =>
    if !p.shifted && (p.time.isSome || digits.length > 2) then
      some { p with date := some (some (yearOf digits), month, day) }
    else if digits.length ≤ 2 then p.withTime? n 0 0 0 "" else p.withTime? (n / 100) (n % 100) 0 0 ""
  | _ =>
    if digits.length > 4 then
      p.withDate? (some (yearOf (digits.take (digits.length - 4)))) (n / 100 % 100) (n % 100)
    else if digits.length ≤ 2 then p.withTime? n 0 0 0 ""
    else p.withTime? (n / 100) (n % 100) 0 0 ""

/-- The value of digits with a sign. -/
def signed (sign : Option Char) (digits : List Char) : Int :=
  let n : Nat := Text.digitsValue digits
  if sign = some '-' then -n else n

open MomentPiece in
/-- Read items to the end; at most `fuel` of them. -/
def readItems? : (fuel : Nat) → MomentParts → List MomentPiece → Option MomentParts
  | 0, _, _ => none
  | _ + 1, p, [] => some p
  | fuel + 1, p, pieces => do
    let isHalf (w : String) : Bool := w = "am" || w = "pm"
    /- A time of day, then `am` or `pm` or a time zone. -/
    let time (hour minute second micro : Nat) (rest : List MomentPiece) : Option MomentParts :=
      match rest with
      | word w :: more =>
        if isHalf w then do readItems? fuel (← p.withTime? hour minute second micro w) more
        else do readItems? fuel (← p.withTime? hour minute second micro "") rest
      | number (some sign) ds [] :: mark ':' :: number none ms [] :: more => do
        let p ← p.withTime? hour minute second micro ""
        readItems? fuel { p with zone := some (offsetOf sign ds ms) } more
      | number (some sign) ds [] :: more => do
        let p' ← p.withTime? hour minute second micro ""
        match more with
        | word w :: _ =>
          if (p'.shift? 1 w).isSome then readItems? fuel p' rest
          else readItems? fuel { p' with zone := some (offsetOf sign ds []) } more
        | _ => readItems? fuel { p' with zone := some (offsetOf sign ds []) } more
      | rest => do readItems? fuel (← p.withTime? hour minute second micro "") rest
    let value := Text.digitsValue
    match pieces with
    | number none h [] :: mark ':' :: number none m [] :: mark ':' :: number none s f :: rest =>
      time (value h) (value m) (value s) (microOf f) rest
    | number none h [] :: mark ':' :: number none m [] :: rest => time (value h) (value m) 0 0 rest
    | number none y [] :: number (some '-') m [] :: number (some '-') d [] :: rest =>
      readItems? fuel (← p.withDate? (some (yearOf y)) (value m) (value d)) rest
    | number none a [] :: mark '/' :: number none b [] :: mark '/' :: number none c [] :: rest =>
      let p ← if a.length ≥ 4 then p.withDate? (some (yearOf a)) (value b) (value c)
        else p.withDate? (some (yearOf c)) (value a) (value b)
      readItems? fuel p rest
    | number none a [] :: mark '/' :: number none b [] :: rest =>
      readItems? fuel (← p.withDate? none (value a) (value b)) rest
    | number sign n [] :: word w :: rest =>
      if let some p := p.shift? (signed sign n) w then readItems? fuel p rest
      else if isHalf w && sign.isNone then
        readItems? fuel (← p.withTime? (value n) 0 0 0 w) rest
      else
        match monthOf? w, sign with
        | some month, none =>
          match rest with
          | number (some '-') y [] :: more =>
            readItems? fuel (← p.withDate? (some (yearOf y)) month (value n)) more
          | number none y [] :: mark ':' :: _ =>
            let _ := y
            readItems? fuel (← p.withDate? none month (value n)) rest
          | number none y [] :: more =>
            readItems? fuel (← p.withDate? (some (yearOf y)) month (value n)) more
          | rest => readItems? fuel (← p.withDate? none month (value n)) rest
        | _, none => readItems? fuel (← p.withNumber? n) (word w :: rest)
        | _, _ => none
    | number none n [] :: rest => readItems? fuel (← p.withNumber? n) rest
    | word w :: rest =>
      if let some days := dayShift? w then
        readItems? fuel { p with days := p.days + days, shifted := true } rest
      else if w = "ago" then
        readItems? fuel
          { p with months := -p.months, days := -p.days, microseconds := -p.microseconds } rest
      else if w = "t" && p.date.isSome && p.time.isNone then readItems? fuel p rest
      else if let some zone := zoneOf? w then
        guard p.zone.isNone
        readItems? fuel { p with zone := some zone } rest
      else if let some n := ordinalOf? w then
        match rest with
        | word unit :: more =>
          if let some p := p.shift? n unit then readItems? fuel p more
          else
            let day ← weekdayOf? unit
            guard p.weekday.isNone
            readItems? fuel { p with weekday := some (n, day) } more
        | _ => none
      else if let some p := p.shift? 1 w then readItems? fuel p rest
      else if let some day := weekdayOf? w then
        guard p.weekday.isNone
        let more := if rest.head? = some (mark ',') then rest.drop 1 else rest
        readItems? fuel { p with weekday := some (0, day) } more
      else
        let month ← monthOf? w
        match rest with
        | number none d [] :: mark ',' :: number none y [] :: more =>
          readItems? fuel (← p.withDate? (some (yearOf y)) month (value d)) more
        | number none d [] :: more => readItems? fuel (← p.withDate? none month (value d)) more
        | number (some '-') d [] :: number (some '-') y [] :: more =>
          readItems? fuel (← p.withDate? (some (yearOf y)) month (value d)) more
        | _ => none
    | _ => none

/-- The moment that the parts tell, seen from a moment in a zone. -/
def moment? (p : MomentParts) (now : Int) (zone : Zone) : Option Int := do
  let now := now + zone.ahead * Date.tick
  let today := Date.ofMoment now
  let (year, month, day) := match p.date with
    | some (year, month, day) => (year.getD today.year, month, day)
    | none => (today.year, today.month, today.day)
  guard (1 ≤ month && month ≤ 12 && 1 ≤ day && day ≤ Date.monthLength year month)
  let start := (Date.moment { year, month, day }) / Date.tick / 86400
  let week : Int := match p.weekday, p.date with
    | some (n, wanted), none =>
      let here := Date.dayOfWeek (start * 86400 * Date.tick)
      (wanted + 7 - here) % 7 + 7 * (n - if 0 < n && here ≠ wanted then 1 else 0)
    | _, _ => 0
  let months : Int := (year * 12 + (month - 1) : Nat) + p.months
  let first := (Date.moment { year := (months / 12).toNat, month := (months % 12).toNat + 1 })
    / Date.tick / 86400
  let days : Int := first + (day - 1 : Nat) + week + p.days
  let time : Int := match p.time with
    | some time => time
    | none =>
      if p.shifted && p.date.isNone && p.weekday.isNone then now % (86400 * Date.tick) else 0
  let micro : Int := days * 86400 * Date.tick + time - p.zone.getD zone.ahead * Date.tick + p.microseconds
  return micro

end MomentParts

/-- The moment that a text tells, seen from a moment in a zone; `@` begins a number of seconds. -/
def readMoment? (now : Int) (text : String) (zone : Zone := {}) : Option Int := do
  match MomentPiece.cut (text.length + 1) text.toList with
  | [.mark '@', .number sign digits fraction] =>
    let n : Nat := Text.digitsValue digits * Date.tick + MomentParts.microOf fraction
    return if sign = some '-' then -n else n
  | pieces => (← MomentParts.readItems? (pieces.length + 1) {} pieces).moment? now zone

end CommandSpec.Utility
