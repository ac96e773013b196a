import Mustache.Document.Toml.Text
import Mustache.Number.Numeral

namespace Mustache.Document.Toml

/-! Dates and times of a TOML document. They are not turned into one another;
the text that a moment is read as differs from the one that is written in the
mark between date and time, in the fraction of a second and in the case of `Z`. -/

/-- Exactly `count` digits, with their value at most `limit`. -/
def readField (count low limit : Nat) : Reader (List Char) := do
  let digits := (← get).take count
  let value := Number.digitsValue digits
  if digits.length != count || !digits.all Char.isDigit || value < low || limit < value then failure
  modify (List.drop count)
  return digits

def daysOfMonth (year month : Nat) : Nat :=
  if month == 2 then
    if year % 4 == 0 && (year % 100 != 0 || year % 400 == 0) then 29 else 28
  else if month == 4 || month == 6 || month == 9 || month == 11 then 30
  else 31

def readDate : Reader String := do
  let year ← readField 4 0 9999
  expect "-"
  let month ← readField 2 1 12
  expect "-"
  let days := daysOfMonth (Number.digitsValue year) (Number.digitsValue month)
  let day ← readField 2 1 days
  return String.ofList (year ++ '-' :: month ++ '-' :: day)

/-- The fraction of a second behind its point: nine digits at most, none of them
a zero at the end. -/
def fractionText (digits : List Char) : List Char :=
  let kept := ((digits.take 9).reverse.dropWhile (· == '0')).reverse
  if kept.isEmpty then [] else '.' :: kept

/-- A minute has up to 61 seconds. -/
def readTime : Reader String := do
  let hour ← readField 2 0 23
  expect ":"
  let minute ← readField 2 0 59
  expect ":"
  let second ← readField 2 0 60
  let fraction ←
    if ← pass "." then
      let digits ← readWhile Char.isDigit
      if digits.isEmpty then failure
      pure (fractionText digits)
    else pure []
  return String.ofList (hour ++ ':' :: minute ++ ':' :: second ++ fraction)

/-- How far a time is from the one at Greenwich. A distance of nothing has a plus
sign. -/
def readOffset : Reader String := do
  if (← pass "Z") || (← pass "z") then return "Z"
  let negative ← pass "-"
  if negative || (← pass "+") then
    let hour ← readField 2 0 23
    expect ":"
    let minute ← readField 2 0 59
    let zero := (hour ++ minute).all (· == '0')
    let sign := if negative && !zero then '-' else '+'
    return String.ofList (sign :: hour ++ ':' :: minute)
  return ""

def isDateAhead (text : List Char) : Bool :=
  (text.take 4).length == 4 && (text.take 4).all Char.isDigit && text[4]? == some '-'

def isTimeAhead (text : List Char) : Bool :=
  (text.take 2).length == 2 && (text.take 2).all Char.isDigit && text[2]? == some ':'

/-- A date, a time, or both with a letter or a space between them. Only with both
there may be an offset. -/
def readMoment : Reader String := do
  if isTimeAhead (← get) then readTime
  else
    let date ← readDate
    match ← get with
    | mark :: rest =>
      if (mark == 'T' || mark == 't' || mark == ' ') && isTimeAhead rest then
        set rest
        let time ← readTime
        return date ++ "T" ++ time ++ (← readOffset)
      else return date
    | [] => return date

example : (readMoment.run "1979-05-27 07:32:00.120z".toList).map Prod.fst =
    some "1979-05-27T07:32:00.12Z" := by decide +kernel

end Mustache.Document.Toml
