import Linkage.Settings.Value
import Linkage.Toml.Number

/-!
Dates and times. They are checked for being possible, and what they say is not kept.
-/
namespace Linkage.Toml

/-- Takes a number of `count` digits in a range. -/
def fixedNumber (count least greatest : Nat) : Scan Nat := do
  let digits ← (List.replicate count ()).mapM fun _ => Scan.satisfy (isDigitIn 10)
  let n := numberIn 10 digits
  guard (least ≤ n && n ≤ greatest)
  return n

/-- Whether a year has 366 days. -/
def isLeapYear (year : Nat) : Bool := year % 4 == 0 && (year % 100 != 0 || year % 400 == 0)

/-- The number of days of a month. -/
def daysInMonth (year month : Nat) : Nat :=
  if month = 2 then (if isLeapYear year then 29 else 28)
  else if month ∈ [4, 6, 9, 11] then 30
  else 31

/-- Takes a date. -/
def date : Scan Unit := do
  let year ← fixedNumber 4 0 9999
  Scan.char '-'
  let month ← fixedNumber 2 1 12
  Scan.char '-'
  discard (fixedNumber 2 1 (daysInMonth year month))

/-- Takes a time of day. A minute may have a leap second. -/
def time : Scan Unit := do
  discard (fixedNumber 2 0 23)
  Scan.char ':'
  discard (fixedNumber 2 0 59)
  Scan.char ':'
  discard (fixedNumber 2 0 60)
  discard (Scan.optional do
    Scan.char '.'
    discard (Scan.satisfy (isDigitIn 10))
    discard (Scan.takeWhile (isDigitIn 10)))

/-- Takes the distance of a time from universal time. -/
def zone : Scan Unit :=
  discard (Scan.satisfy fun c => c == 'Z' || c == 'z') <|> do
    discard (Scan.satisfy fun c => c == '+' || c == '-')
    discard (fixedNumber 2 0 23)
    Scan.char ':'
    discard (fixedNumber 2 0 59)

/-- Takes a date, a time, or a date with a time. -/
def moment : Scan Value := do
  (do
    date
    discard (Scan.optional do
      discard (Scan.satisfy fun c => c == 'T' || c == 't' || c == ' ')
      time
      discard (Scan.optional zone))) <|> time
  return .moment

end Linkage.Toml
