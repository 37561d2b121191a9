import TextSieve.Text.Basic

/-!
Time stamps of log lines: the date and the time of day in universal time, down to microseconds,
from the number of microseconds since the beginning of 1970.
-/

namespace TextSieve.Command

/-- The number of days of a year. -/
def daysInYear (year : Nat) : Nat :=
  if year % 4 = 0 && (year % 100 ≠ 0 || year % 400 = 0) then 366 else 365

theorem daysInYear_pos (year : Nat) : 0 < daysInYear year := by
  unfold daysInYear
  split <;> decide

/-- The numbers of days of the months of a year. -/
def monthLengths (year : Nat) : List Nat :=
  [31, daysInYear year - 337, 31, 30, 31, 30, 31, 31, 30, 31, 30, 31]

/-- The year of a day, counted from the first day of a year, and the place of the day in it. -/
def yearOf (year day : Nat) : Nat × Nat :=
  if day < daysInYear year then (year, day) else yearOf (year + 1) (day - daysInYear year)
  termination_by day
  decreasing_by
    have := daysInYear_pos year
    omega

/-- The month of a day of a year, and the place of the day in it, both counted from one. -/
def monthOf (month day : Nat) : List Nat → Nat × Nat
  | [] => (month, day + 1)
  | n :: ns => if day < n then (month, day + 1) else monthOf (month + 1) (day - n) ns

/-- A number with at least so many digits. -/
def digits (width n : Nat) : Text :=
  List.replicate (width - (Text.ofNat n).length) '0' ++ Text.ofNat n

/-- The time stamp of a number of microseconds since the beginning of 1970. -/
def timeStamp (microseconds : Nat) : Text :=
  let seconds := microseconds / 1000000
  let (year, day) := yearOf 1970 (seconds / 86400)
  let (month, day) := monthOf 1 day (monthLengths year)
  digits 4 year ++ '-' :: digits 2 month ++ '-' :: digits 2 day ++
    'T' :: digits 2 (seconds / 3600 % 24) ++ ':' :: digits 2 (seconds / 60 % 60) ++
    ':' :: digits 2 (seconds % 60) ++ '.' :: digits 6 (microseconds % 1000000) ++ ['Z']

end TextSieve.Command
