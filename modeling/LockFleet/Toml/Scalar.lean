import LockFleet.Instant.Calendar
import LockFleet.Text.Decimal
import LockFleet.Text.Hex
import LockFleet.Toml.Value
import LockFleet.Word

/-!
This module contains the TOML values that are written as one word: numbers, truth values and points of
time.
-/

namespace LockFleet.Toml

/--
The digits of a numeral in which single underscores may stand between digits.
-/
def ungrouped? (isDigit : Char → Bool) : List Char → Option (List Char)
  | [] => none
  | [c] => if isDigit c then some [c] else none
  | c :: '_' :: rest => if isDigit c then (ungrouped? isDigit rest).map (c :: ·) else none
  | c :: rest => if isDigit c then (ungrouped? isDigit rest).map (c :: ·) else none

def splitSign : List Char → Bool × List Char
  | '-' :: rest => (true, rest)
  | '+' :: rest => (false, rest)
  | text => (false, text)

def isWide (n : Int) : Bool :=
  -(maxSigned + 1) ≤ n && n ≤ maxSigned

def wholeDigits? (text : List Char) : Option (List Char) :=
  (ungrouped? Char.isDigit text).filter fun digits => digits.length = 1 || digits.head? != some '0'

def decimal? (text : List Char) : Option Int :=
  let (negative, rest) := splitSign text
  (wholeDigits? rest).map fun digits =>
    let n : Int := Text.numeralValue digits
    if negative then -n else n

def based? : List Char → Option Int
  | '0' :: 'x' :: rest => (ungrouped? Text.isHexDigit rest).map (value 16)
  | '0' :: 'o' :: rest => (ungrouped? (fun c => '0' ≤ c && c ≤ '7') rest).map (value 8)
  | '0' :: 'b' :: rest => (ungrouped? (fun c => c == '0' || c == '1') rest).map (value 2)
  | _ => none
where
  value (base : Nat) (digits : List Char) : Int :=
    digits.foldl (fun n c => n * base + (Text.hexValue? c).getD 0) (0 : Nat)

def integer? (text : List Char) : Option Int :=
  ((based? text).or (decimal? text)).filter isWide

/--
Whether a positive decimal `0.d₁d₂… * 10 ^ exponent` is so large that the nearest double is infinite.
The bound lies half a unit above the greatest double.
-/
def overflows (digits : List Char) (exponent : Int) : Bool :=
  let kept := digits.dropWhile (· == '0')
  let magnitude := exponent - (digits.length - kept.length : Nat)
  if kept.isEmpty || magnitude < 309 then false
  else if 309 < magnitude then true
  else
    let n := Text.numeralValue kept
    let bound := (twoTo 54 - 1) * twoTo 970
    if kept.length ≤ 309 then bound ≤ n * tenTo (309 - kept.length)
    else bound * tenTo (kept.length - 309) ≤ n

def fraction? : List Char → Option (List Char)
  | [] => some []
  | '.' :: rest => ungrouped? Char.isDigit rest
  | _ => none

def exponent? : List Char → Option Int
  | [] => some 0
  | _ :: rest =>
    let (negative, rest) := splitSign rest
    (ungrouped? Char.isDigit rest).map fun digits =>
      let n : Int := Text.numeralValue digits
      if negative then -n else n

/--
Whether a word is a number with a fraction, an exponent or both, or one of the special numbers. A
positive number may not be too large for a double.
-/
def isFloat (text : List Char) : Bool :=
  let (negative, rest) := splitSign text
  if rest == "inf".toList || rest == "nan".toList then true
  else
    let isLetter (c : Char) := c == 'e' || c == 'E'
    let mantissa := rest.takeWhile fun c => !isLetter c
    let power := rest.dropWhile fun c => !isLetter c
    let whole := mantissa.takeWhile (· != '.')
    let part := mantissa.dropWhile (· != '.')
    match wholeDigits? whole, fraction? part, exponent? power with
    | some w, some f, some e =>
      !(part.isEmpty && power.isEmpty) && (negative || !overflows (w ++ f) (w.length + e))
    | _, _, _ => false

def digits? (width : Nat) (text : List Char) : Option Nat :=
  if text.length = width ∧ text.all Char.isDigit then some (Text.numeralValue text) else none

def isDate (text : List Char) : Bool :=
  match digits? 4 (text.take 4), digits? 2 ((text.drop 5).take 2), digits? 2 (text.drop 8) with
  | some year, some month, some day =>
    text[4]? == some '-' && text[7]? == some '-' && (⟨year, month, day⟩ : Calendar.Date).isValid
  | _, _, _ => false

def isTime (text : List Char) : Bool :=
  match digits? 2 (text.take 2), digits? 2 ((text.drop 3).take 2), digits? 2 ((text.drop 6).take 2) with
  | some hour, some minute, some second =>
    text[2]? == some ':' && text[5]? == some ':' && hour ≤ 23 && minute ≤ 59 && second ≤ 60 &&
      match text.drop 8 with
      | [] => true
      | '.' :: rest => Text.isNumeral rest
      | _ => false
  | _, _, _ => false

def isOffset (text : List Char) : Bool :=
  match text with
  | ['Z'] => true
  | ['z'] => true
  | [sign, h₁, h₂, ':', m₁, m₂] =>
    match digits? 2 [h₁, h₂], digits? 2 [m₁, m₂] with
    | some hour, some minute => (sign == '+' || sign == '-') && hour ≤ 23 && minute ≤ 59
    | _, _ => false
  | _ => false

def isMoment (text : List Char) : Bool :=
  let date := text.take 10
  match text.drop 10 with
  | [] => isDate text || isTime text
  | separator :: rest =>
    let time := rest.takeWhile fun c => c.isDigit || c == ':' || c == '.'
    let offset := rest.drop time.length
    isTime text || isDate date && (separator == 'T' || separator == 't' || separator == ' ')
      && isTime time && (offset.isEmpty || isOffset offset)

def scalar? (text : List Char) : Option Value :=
  if text = "true".toList then some (.boolean true)
  else if text = "false".toList then some (.boolean false)
  else
    match integer? text with
    | some n => some (.integer n)
    | none =>
      if isFloat text then some (.float (String.ofList text))
      else if isMoment text then some (.moment (String.ofList text))
      else none

def isWordChar (c : Char) : Bool :=
  c.isAlphanum || c == '+' || c == '-' || c == '_' || c == '.' || c == ':'

/--
Reads a word and its value. A space between a day and a time is part of the word.
-/
def readScalar (text : List Char) : Reading Value :=
  let word := text.takeWhile isWordChar
  let rest := text.drop word.length
  let (word, rest) :=
    match rest with
    | ' ' :: c :: more =>
      if isDate word && c.isDigit then
        let time := (c :: more).takeWhile isWordChar
        (word ++ ' ' :: time, (c :: more).drop time.length)
      else (word, rest)
    | _ => (word, rest)
  (scalar? word).map fun v => (v, rest)

end LockFleet.Toml
