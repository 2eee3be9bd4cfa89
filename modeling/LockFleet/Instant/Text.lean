import LockFleet.Instant.Basic
import LockFleet.Instant.Calendar
import LockFleet.Text.Blank
import LockFleet.Text.Decimal
import LockFleet.Word

/-!
This module contains the text of an instant, such as `2025-01-15T03:30:00.5Z`. An instant is written
in UTC. What is read may be in the time of any offset, with blanks between its parts.
-/

namespace LockFleet.Instant

open LockFleet.Calendar

def nanosecondsPerSecond : Nat := 1000000000

def isYear (year : Int) : Bool :=
  -262143 ≤ year && year ≤ 262142

def yearText (year : Int) : List Char :=
  if 0 ≤ year ∧ year ≤ 9999 then Text.paddedNumeral 4 year.natAbs
  else (if year < 0 then '-' else '+') :: Text.paddedNumeral 4 year.natAbs

def fractionText (nanosecond : Nat) : List Char :=
  if nanosecond = 0 then []
  else if nanosecond % 1000000 = 0 then '.' :: Text.paddedNumeral 3 (nanosecond / 1000000)
  else if nanosecond % 1000 = 0 then '.' :: Text.paddedNumeral 6 (nanosecond / 1000)
  else '.' :: Text.paddedNumeral 9 nanosecond

def text (t : Instant) : List Char :=
  let date := Date.ofDayNumber (t.second / 86400)
  let secondOfDay := (t.second % 86400).toNat
  let leap := t.nanosecond / nanosecondsPerSecond
  yearText date.year ++ '-' :: Text.paddedNumeral 2 date.month
    ++ '-' :: Text.paddedNumeral 2 date.day
    ++ 'T' :: Text.paddedNumeral 2 (secondOfDay / 3600)
    ++ ':' :: Text.paddedNumeral 2 (secondOfDay / 60 % 60)
    ++ ':' :: Text.paddedNumeral 2 (secondOfDay % 60 + leap)
    ++ fractionText (t.nanosecond % nanosecondsPerSecond) ++ ['Z']

abbrev Reading (α : Type) := Option (α × List Char)

def readDigits (limit : Nat) (text : List Char) : Reading Nat :=
  let digits := (text.takeWhile Char.isDigit).take limit
  if digits = [] then none else some (Text.numeralValue digits, text.drop digits.length)

def readField (least most : Nat) (text : List Char) : Reading Nat :=
  match readDigits 2 (Text.trimStart text) with
  | some (n, rest) => if least ≤ n ∧ n ≤ most then some (n, rest) else none
  | none => none

def readMark (mark : Char) (text : List Char) : Option (List Char) :=
  match Text.trimStart text with
  | c :: rest => if c = mark then some rest else none
  | [] => none

def readYear (text : List Char) : Reading Int :=
  let read : Reading Int :=
    match Text.trimStart text with
    | '-' :: rest => (readDigits rest.length rest).map fun r => (-r.1, r.2)
    | '+' :: rest => (readDigits rest.length rest).map fun r => (r.1, r.2)
    | rest => (readDigits 4 rest).map fun r => (r.1, r.2)
  read.filter fun r => isYear r.1

/--
Reads a fraction of a second, if there is a point, in nanoseconds. Digits after the ninth one are
skipped.
-/
def readFraction (text : List Char) : Reading Nat :=
  match text with
  | '.' :: rest =>
    let digits := rest.takeWhile Char.isDigit
    if digits = [] then none
    else
      let kept := digits.take 9
      some (Text.numeralValue kept * tenTo (9 - kept.length), rest.drop digits.length)
  | _ => some (0, text)

/--
Reads an offset of hours and minutes from UTC, in seconds. Colons and blanks may stand between the
two.
-/
def readOffset (text : List Char) : Reading Int :=
  match text with
  | 'Z' :: rest => some (0, rest)
  | 'z' :: rest => some (0, rest)
  | '+' :: rest => signed 1 rest
  | '-' :: rest => signed (-1) rest
  | '\u2212' :: rest => signed (-1) rest
  | a :: b :: c :: rest =>
    if [a.toUpper, b.toUpper, c.toUpper] = ['U', 'T', 'C'] then some (0, rest) else none
  | _ => none
where
  signed (sign : Int) : List Char → Reading Int
    | h₁ :: h₂ :: rest =>
      match rest.dropWhile fun c => c == ':' || Text.isBlank c with
      | m₁ :: m₂ :: rest =>
        if [h₁, h₂, m₁, m₂].all Char.isDigit then
          let hours := Text.numeralValue [h₁, h₂]
          let minutes := Text.numeralValue [m₁, m₂]
          if minutes < 60 ∧ hours < 24 then
            some (sign * (3600 * hours + 60 * minutes), rest)
          else none
        else none
      | _ => none
    | _ => none

def readDate (text : List Char) : Option (Date × List Char) := do
  let (year, text) ← readYear text
  let text ← readMark '-' text
  let (month, text) ← readField 1 12 text
  let text ← readMark '-' text
  let (day, text) ← readField 1 31 text
  let date : Date := ⟨year, month, day⟩
  if date.isValid then some (date, text) else none

def readSeparator : List Char → Option (List Char)
  | 't' :: rest => some rest
  | 'T' :: rest => some rest
  | ' ' :: rest => some rest
  | _ => none

/--
Reads the time of day, as a second of the day and nanoseconds. The sixtieth second of a minute is a
leap second.
-/
def readTime (text : List Char) : Option ((Nat × Nat) × List Char) := do
  let (hour, text) ← readField 0 23 text
  let text ← readMark ':' text
  let (minute, text) ← readField 0 59 text
  let text ← readMark ':' text
  let (second, text) ← readField 0 60 text
  let (fraction, text) ← readFraction text
  let nanosecond := if second = 60 then nanosecondsPerSecond + fraction else fraction
  some ((3600 * hour + 60 * minute + min second 59, nanosecond), text)

def ofText? (text : List Char) : Option Instant := do
  let (date, text) ← readDate text
  let text ← readSeparator text
  let ((second, nanosecond), text) ← readTime text
  let (offset, text) ← readOffset (Text.trimStart text)
  let instant : Instant := ⟨86400 * date.toDayNumber + second - offset, nanosecond⟩
  if (Text.trimStart text).isEmpty ∧ isYear (Date.ofDayNumber (instant.second / 86400)).year then
    some instant
  else none

end LockFleet.Instant
