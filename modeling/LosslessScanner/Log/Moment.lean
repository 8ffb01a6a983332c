import LosslessScanner.Text.Basic

/-!
# Moments in the log

A moment is written in universal time to the second, as `2024-02-29T23:59:59Z`.
It is computed from the number of seconds since the beginning of 1970. Years are
counted from March on, so that the leap day is the last day of a year and the
lengths of the months before it repeat every five months.
-/

namespace LosslessScanner.Log

/-- A number in at least so many digits. -/
def zeroPadded (width n : Nat) : Text :=
  List.replicate (width - (Text.ofNat n).length) '0' ++ Text.ofNat n

/-- The year, month and day that are so many days after the beginning of 1970. -/
def civilDate (days : Nat) : Nat × Nat × Nat :=
  let shifted := days + 719468
  let era := shifted / 146097
  let dayOfEra := shifted % 146097
  let yearOfEra := (dayOfEra - dayOfEra / 1460 + dayOfEra / 36524 - dayOfEra / 146096) / 365
  let dayOfYear := dayOfEra - (365 * yearOfEra + yearOfEra / 4 - yearOfEra / 100)
  let marchMonth := (5 * dayOfYear + 2) / 153
  let day := dayOfYear - (153 * marchMonth + 2) / 5 + 1
  let month := if marchMonth < 10 then marchMonth + 3 else marchMonth - 9
  let year := yearOfEra + era * 400 + (if month ≤ 2 then 1 else 0)
  (year, month, day)

/-- The moment that is so many seconds after the beginning of 1970. -/
def moment (seconds : Nat) : Text :=
  let (year, month, day) := civilDate (seconds / 86400)
  let rest := seconds % 86400
  zeroPadded 4 year ++ ['-'] ++ zeroPadded 2 month ++ ['-'] ++ zeroPadded 2 day ++ ['T']
    ++ zeroPadded 2 (rest / 3600) ++ [':'] ++ zeroPadded 2 (rest / 60 % 60) ++ [':']
    ++ zeroPadded 2 (rest % 60) ++ ['Z']

end LosslessScanner.Log
