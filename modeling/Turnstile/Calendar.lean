import Turnstile.Decimal.Integer

/-!
# Points in time in writing

A point in time is counted in nanoseconds since the beginning of 1970, universal time. It is
written by the Gregorian calendar in the form of RFC 3339, with as many digits of the second as are
not zero; years outside `0` to `9999` cannot be written.
-/

namespace Turnstile.Calendar

/-- A day of the calendar. -/
structure Day where
  year : Int
  month : Nat
  day : Nat
  deriving DecidableEq, Repr

/-- The day that lies `n` days after the first of January 1970. Counting starts in March of the
year 0, so that a leap day ends its year. -/
def dayOf (n : Int) : Day :=
  let z := n + 719468
  let era := z / 146097
  let doe := (z % 146097).toNat
  let yoe := (doe - doe / 1460 + doe / 36524 - doe / 146096) / 365
  let doy := doe - (365 * yoe + yoe / 4 - yoe / 100)
  let mp := (5 * doy + 2) / 153
  let day := doy - (153 * mp + 2) / 5 + 1
  let month := if mp < 10 then mp + 3 else mp - 9
  let year := era * 400 + yoe + (if month ≤ 2 then 1 else 0)
  ⟨year, month, day⟩

/-- A number in at least `width` digits. -/
def padded (width n : Nat) : List Char :=
  let ds := Decimal.natText n
  List.replicate (width - ds.length) '0' ++ ds

/-- The digits of the second behind its point, without zeros at the end. -/
def fraction (nanos : Nat) : List Char :=
  if nanos = 0 then []
  else '.' :: ((padded 9 nanos).reverse.dropWhile (· = '0')).reverse

/-- The written form of a point in time. -/
def rfc3339? (nanos : Int) : Option String :=
  let seconds := nanos / 1000000000
  let day := dayOf (seconds / 86400)
  let second := (seconds % 86400).toNat
  if day.year < 0 || 9999 < day.year then none
  else some (String.ofList
    (padded 4 day.year.toNat ++ '-' :: padded 2 day.month ++ '-' :: padded 2 day.day ++
      'T' :: padded 2 (second / 3600) ++ ':' :: padded 2 (second / 60 % 60) ++
      ':' :: padded 2 (second % 60) ++ fraction (nanos % 1000000000).toNat ++ ['Z']))

end Turnstile.Calendar
