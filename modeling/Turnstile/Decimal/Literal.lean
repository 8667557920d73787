import Turnstile.Decimal.Integer
import Turnstile.Decimal.Binary64

/-!
# Doubles from decimal text

`read?` takes an optional sign and digits with at most one point, at least one digit in all, and
an optional exponent; or one of the words `inf`, `infinity` and `nan`, in any case. The result is
the double nearest to the number written.
-/

namespace Turnstile.Decimal.Literal

/-- The double nearest to `digits · 10^exponent`. Numbers beyond the range of a double on either
side are decided by their size alone. -/
def scale (digits : Nat) (exponent : Int) : Float :=
  if digits == 0 then Float.ofBits 0
  else
    let size : Int := (natText digits).length + exponent
    if size > 400 then Float.ofBits (UInt64.ofNat Binary64.infinityBits)
    else if size < -400 then Float.ofBits 0
    else if exponent ≥ 0 then Binary64.ofRatio (digits * Nat.pow 10 exponent.toNat) 1
    else Binary64.ofRatio digits (Nat.pow 10 (-exponent).toNat)

/-- The exponent after its mark: an optional sign and at least one digit. -/
def exponent? (cs : List Char) : Option Int := readInt? cs

/-- Digits, point and exponent without a sign. -/
def unsigned? (cs : List Char) : Option Float :=
  let whole := cs.takeWhile Char.isDigit
  let rest := cs.dropWhile Char.isDigit
  let (fraction, rest) := match rest with
    | '.' :: r => (r.takeWhile Char.isDigit, r.dropWhile Char.isDigit)
    | r => ([], r)
  let ds := whole ++ fraction
  if ds.isEmpty then none
  else match rest with
    | [] => some (scale (digitsVal ds) (-(fraction.length : Int)))
    | c :: r =>
      if c = 'e' || c = 'E' then
        (exponent? r).map fun e => scale (digitsVal ds) (e - fraction.length)
      else none

/-- The words for what no digits can write. -/
def word? (cs : List Char) : Option Float :=
  let w := cs.map Char.toLower
  if w == "inf".toList || w == "infinity".toList then
    some (Float.ofBits (UInt64.ofNat Binary64.infinityBits))
  else if w == "nan".toList then
    some (Float.ofBits (UInt64.ofNat (Binary64.infinityBits + Nat.pow 2 51)))
  else none

/-- A double in decimal text. -/
def read? (cs : List Char) : Option Float :=
  let (negative, body) := match cs with
    | '-' :: r => (true, r)
    | '+' :: r => (false, r)
    | r => (false, r)
  match (unsigned? body).or (word? body) with
  | some x => some (if negative then -x else x)
  | none => none

/-- The integer before the point of a double, at an end of the signed 64-bit range if it lies
beyond, and `0` for what is no number. -/
def toSigned (x : Float) : Int :=
  match Binary64.toInteger x with
  | some n => Word.saturate n
  | none => if x < 0 then Word.least else Word.greatest

end Turnstile.Decimal.Literal
