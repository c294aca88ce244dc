import Traversal.Toml.Number

/-!
# Dates and times

A moment is a date, a time of day, or a date and a time with or without an offset.  Every part must be
in its range; a day, in the range of its month.
-/

namespace Traversal.Toml

open Reader

/-- Reads a number of two digits in a range. -/
def twoDigits (least most : Nat) : Reader Nat :=
  checked (takeExactly 2 Char.isDigit) fun ds =>
    let n := number 10 ds
    if least ≤ n && n ≤ most then .ok n else .error .outOfRange

/-- The days of a month. -/
def daysOf (year month : Nat) : Nat :=
  let isLeap := year % 4 = 0 && (year % 100 ≠ 0 || year % 400 = 0)
  if month = 2 then if isLeap then 29 else 28
  else if month = 4 || month = 6 || month = 9 || month = 11 then 30
  else 31

/-- Reads a date. -/
def date : Reader Unit := do
  let year ← takeExactly 4 Char.isDigit
  let _ ← char '-'
  let month ← must (twoDigits 1 12)
  let _ ← must (char '-')
  let _ ← must (checked (twoDigits 1 31) fun day =>
    if day ≤ daysOf (number 10 year) month then .ok day else .error .outOfRange)

/-- Reads a time of day. -/
def time : Reader Unit := do
  let _ ← twoDigits 0 23
  let _ ← char ':'
  must do
    let _ ← twoDigits 0 59
    let _ ← char ':'
    let _ ← twoDigits 0 60
    let _ ← optional do
      let _ ← char '.'
      takeWhile1 Char.isDigit

/-- Reads an offset from universal time. -/
def offset : Reader Unit :=
  (named · "time offset") do
    orElse
      (do let _ ← satisfy fun c => c = 'Z' || c = 'z')
      (do
        let _ ← satisfy isSign
        must do
          let _ ← twoDigits 0 23
          let _ ← char ':'
          let _ ← twoDigits 0 59)

/-- Reads a date, with a time behind it or without. -/
def dateAndTime : Reader Unit :=
  (named · "date-time") do
    date
    let _ ← optional do
      let _ ← satisfy fun c => c = 'T' || c = 't' || c = ' '
      time
      let _ ← optional offset

/-- Reads a moment and gives it as it is written. -/
def moment : Reader (List Char) := fun s =>
  match orElse dateAndTime (named time "time") s with
  | .ok ((), s') => .ok (s.take (s.length - s'.length), s')
  | .error refusal => .error refusal

end Traversal.Toml
