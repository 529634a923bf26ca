import Orm.Calendar.Moment
import Orm.Number.Reading
import Orm.Text.Blank

/-!
# Written dates and times

A pattern is a list of parts of a date or time, literal characters and blanks. `Pattern.write`
writes a moment by a pattern and `Pattern.read?` reads the parts back from a text that the pattern
uses up. A reader is more generous than a writer: blanks may stand before each number, months and
the parts after them may have one digit, and a blank of the pattern may be missing.
-/

namespace Orm

open Text

/-- One element of a pattern. -/
inductive PatternItem
  | year
  | month
  | day
  | hour
  | minute
  | second
  | fraction
  | blanks
  | literal (c : Char)
deriving DecidableEq, Repr

/-- The form of a written date or time. -/
abbrev Pattern := List PatternItem

/-- The parts of a moment as they are written; a second of 60 is a leap second. -/
structure MomentParts where
  year : Int := 1970
  month : Nat := 1
  day : Nat := 1
  hour : Nat := 0
  minute : Nat := 0
  second : Nat := 0
  nanos : Nat := 0
deriving DecidableEq, Repr

namespace MomentParts

/-- The day that the parts name, if it exists. -/
def date? (parts : MomentParts) : Option Date :=
  Date.ofParts? parts.year parts.month parts.day

/-- The time of day that the parts name, if it exists. -/
def time? (parts : MomentParts) : Option TimeOfDay :=
  if parts.second = 60 then
    TimeOfDay.ofParts? parts.hour parts.minute 59 (1000000000 + parts.nanos)
  else TimeOfDay.ofParts? parts.hour parts.minute parts.second parts.nanos

/-- The moment that the parts name, if it exists. -/
def dateTime? (parts : MomentParts) : Option DateTime := do
  return ⟨← parts.date?, ← parts.time?⟩

/-- The parts of a moment. -/
def ofDateTime (moment : DateTime) : MomentParts where
  year := moment.date.year
  month := moment.date.month
  day := moment.date.day
  hour := moment.time.hour
  minute := moment.time.minute
  second := moment.time.shownSecond
  nanos := moment.time.nanos % 1000000000

/-- The parts of a day. -/
def ofDate (date : Date) : MomentParts :=
  ofDateTime ⟨date, .midnight⟩

end MomentParts

namespace Pattern

/-- Four digits for the years 0 to 9999, a sign and at least four digits for the others. -/
def writeYear (year : Int) : List Char :=
  if 0 ≤ year ∧ year ≤ 9999 then paddedDigits 4 year.natAbs
  else (if year < 0 then '-' else '+') :: paddedDigits 4 year.natAbs

/-- Nothing for no nanoseconds, else a point and as many groups of three digits as are needed. -/
def writeFraction (nanos : Nat) : List Char :=
  if nanos = 0 then []
  else if nanos % 1000000 = 0 then '.' :: paddedDigits 3 (nanos / 1000000)
  else if nanos % 1000 = 0 then '.' :: paddedDigits 6 (nanos / 1000)
  else '.' :: paddedDigits 9 nanos

/-- The written form of one element. -/
def writeItem (parts : MomentParts) : PatternItem → List Char
  | .year => writeYear parts.year
  | .month => paddedDigits 2 parts.month
  | .day => paddedDigits 2 parts.day
  | .hour => paddedDigits 2 parts.hour
  | .minute => paddedDigits 2 parts.minute
  | .second => paddedDigits 2 parts.second
  | .fraction => writeFraction parts.nanos
  | .blanks => [' ']
  | .literal c => [c]

/-- The parts written by a pattern. -/
def write (pattern : Pattern) (parts : MomentParts) : List Char :=
  pattern.flatMap (writeItem parts)

/-- The leading digits of a text, at most `limit` of them, and what follows. -/
def takeDigits : Nat → List Char → List Char × List Char
  | 0, text => ([], text)
  | _ + 1, [] => ([], [])
  | limit + 1, c :: rest =>
      if c.isDigit then
        let (digits, after) := takeDigits limit rest
        (c :: digits, after)
      else ([], c :: rest)

/-- The number that one up to `limit` digits stand for, and what follows. -/
def readDigits? (limit : Nat) (text : List Char) : Option (Nat × List Char) :=
  let (digits, after) := takeDigits limit text
  if digits.isEmpty then none else some (digitsValue digits, after)

/-- A year: at most four digits, or a sign and any number of digits. -/
def readYear? : List Char → Option (Int × List Char)
  | '-' :: rest => (readDigits? rest.length rest).map fun (n, after) => (-(n : Int), after)
  | '+' :: rest => (readDigits? rest.length rest).map fun (n, after) => ((n : Int), after)
  | text => (readDigits? 4 text).map fun (n, after) => ((n : Int), after)

/-- A number of one or two digits. -/
def readPair? (text : List Char) : Option (Nat × List Char) := readDigits? 2 text

/-- The nanoseconds of a fraction: nothing, or a point and digits, of which nine count. -/
def readFraction? : List Char → Option (Nat × List Char)
  | '.' :: rest =>
      let (digits, after) := takeDigits 9 rest
      if digits.isEmpty then none
      else some (digitsValue digits * Nat.pow 10 (9 - digits.length), after.dropWhile Char.isDigit)
  | text => some (0, text)

/-- Reads one element into the parts. -/
def readItem? (parts : MomentParts) (text : List Char) :
    PatternItem → Option (MomentParts × List Char)
  | .year => (readYear? (text.dropWhile isBlank)).map fun (n, after) =>
      ({ parts with year := n }, after)
  | .month => (readPair? (text.dropWhile isBlank)).map fun (n, after) =>
      ({ parts with month := n }, after)
  | .day => (readPair? (text.dropWhile isBlank)).map fun (n, after) =>
      ({ parts with day := n }, after)
  | .hour => (readPair? (text.dropWhile isBlank)).map fun (n, after) =>
      ({ parts with hour := n }, after)
  | .minute => (readPair? (text.dropWhile isBlank)).map fun (n, after) =>
      ({ parts with minute := n }, after)
  | .second => (readPair? (text.dropWhile isBlank)).map fun (n, after) =>
      ({ parts with second := n }, after)
  | .fraction => (readFraction? text).map fun (n, after) => ({ parts with nanos := n }, after)
  | .blanks => some (parts, text.dropWhile isBlank)
  | .literal c => match text with
    | [] => none
    | head :: after => if head = c then some (parts, after) else none

/-- Reads the elements of a pattern one after the other. -/
def readItems? : Pattern → MomentParts → List Char → Option (MomentParts × List Char)
  | [], parts, text => some (parts, text)
  | item :: rest, parts, text => do
      let (parts, text) ← readItem? parts text item
      readItems? rest parts text

/-- The parts that a whole text names under a pattern. -/
def read? (pattern : Pattern) (text : List Char) : Option MomentParts :=
  match readItems? pattern {} text with
  | some (parts, []) => some parts
  | _ => none

/-- Year, month and day with hyphens between them. -/
def date : Pattern := [.year, .literal '-', .month, .literal '-', .day]

/-- Hour, minute and second with colons between them. -/
def clock : Pattern := [.hour, .literal ':', .minute, .literal ':', .second]

/-- A date, a blank and a time without a fraction. -/
def dateTime : Pattern := date ++ [.blanks] ++ clock

/-- A date, the letter T and a time with a fraction. -/
def exactDateTime : Pattern := date ++ [.literal 'T'] ++ clock ++ [.fraction]

/-- A date in which blanks may stand around the hyphens and at the end. -/
def looseDate : Pattern :=
  [.year, .blanks, .literal '-', .month, .blanks, .literal '-', .day, .blanks]

/-- A date and a time with a fraction in which blanks may stand around every mark. -/
def looseDateTime : Pattern :=
  looseDate ++
    [.literal 'T', .hour, .blanks, .literal ':', .minute, .blanks, .literal ':', .second,
      .fraction, .blanks]

end Pattern

end Orm
