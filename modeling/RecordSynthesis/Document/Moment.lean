import RecordSynthesis.Document.Quoted
import RecordSynthesis.Document.Value

/-!
# Moments

A moment is a date, a time of day, or both with an optional offset from universal time. The day
must exist in its month of the Gregorian calendar, and a minute may have a leap second.
-/

set_option autoImplicit false

namespace RecordSynthesis.Document

open Scanner

/-- Takes a number of exactly so many digits within bounds. -/
def fixedNumber (count low high : Nat) : Scanner Nat := fun cs =>
  let taken := cs.take count
  let n := numberOf 10 taken
  if taken.length = count && taken.all Char.isDigit && low ≤ n && n ≤ high then
    some (n, cs.drop count)
  else none

/-- The number of days of a month. -/
def daysIn (year month : Nat) : Nat :=
  if month = 2 then
    if year % 4 = 0 && (year % 100 ≠ 0 || year % 400 = 0) then 29 else 28
  else if month = 4 || month = 6 || month = 9 || month = 11 then 30
  else 31

/-- Takes a date. -/
def date : Scanner Unit := do
  let year ← fixedNumber 4 0 9999
  exactly '-'
  let month ← fixedNumber 2 1 12
  exactly '-'
  discard (fixedNumber 2 1 (daysIn year month))

/-- Takes a fraction of a second. -/
def secondFraction : Scanner Unit := do
  exactly '.'
  discard (satisfying Char.isDigit)
  discard (span Char.isDigit)

/-- Takes a time of day. -/
def time : Scanner Unit := do
  discard (fixedNumber 2 0 23)
  exactly ':'
  discard (fixedNumber 2 0 59)
  exactly ':'
  discard (fixedNumber 2 0 60)
  discard (attempt secondFraction)

/-- Takes an offset from universal time. -/
def offset : Scanner Unit := do
  match ← satisfying fun c => c = 'Z' || c = 'z' || c = '+' || c = '-' with
  | '+' => hours
  | '-' => hours
  | _ => return
where
  hours : Scanner Unit := do
    discard (fixedNumber 2 0 23)
    exactly ':'
    discard (fixedNumber 2 0 59)

/-- Takes a time behind a date. -/
def timeOfDate : Scanner Unit := do
  discard (satisfying fun c => c = 'T' || c = 't' || c = ' ')
  time
  discard (attempt offset)

/-- Takes a date, alone or with a time. -/
def datedMoment : Scanner Unit := do
  date
  discard (attempt timeOfDate)

/-- Takes a moment. -/
def moment : Scanner Value := do return .moment (← written (either datedMoment time))

end RecordSynthesis.Document
