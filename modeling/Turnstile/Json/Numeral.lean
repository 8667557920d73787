import Turnstile.Decimal.Integer
import Turnstile.Decimal.Binary64
import Turnstile.Json.Basic

/-!
# Numbers in JSON text

`Numeral.scan?` cuts the longest number off a text by the grammar of JSON: no leading zero, a
digit on both sides of the point, a digit in the exponent. `Numeral.value?` gives it a value. A
whole number that fits a signed or an unsigned 64-bit word is an integer; every other one is a
double, made in three steps: the digits are collected while they fit an unsigned word, whole
digits beyond that raise the decimal exponent and fractional ones are dropped; the collected
number becomes the nearest double; and that is multiplied or divided by a power of ten, once for
exponents up to 308. A number too large for a double has no value.
-/

namespace Turnstile.Json

/-- The pieces of a number as written. -/
structure Numeral where
  negative : Bool
  whole : List Char
  fraction : List Char
  exponent : Option (Bool × List Char)

namespace Numeral

/-- The digits at the front, and what follows them. -/
def digits (cs : List Char) : List Char × List Char :=
  (cs.takeWhile Char.isDigit, cs.dropWhile Char.isDigit)

/-- The exponent after its mark: whether it is negative, and its digits. -/
def scanExponent? (cs : List Char) : Option ((Bool × List Char) × List Char) :=
  let (negative, r) := match cs with
    | '-' :: r => (true, r)
    | '+' :: r => (false, r)
    | r => (false, r)
  match digits r with
  | ([], _) => none
  | (ds, r) => some ((negative, ds), r)

/-- Point and digits, if there is a point. -/
def scanFraction? : List Char → Option (List Char × List Char)
  | '.' :: r => match digits r with
    | ([], _) => none
    | (ds, r) => some (ds, r)
  | r => some ([], r)

/-- Whole digits: a zero alone, or digits that start with no zero. -/
def scanWhole? (cs : List Char) : Option (List Char × List Char) :=
  match digits cs with
  | ([], _) => none
  | (['0'], r) => some (['0'], r)
  | ('0' :: _, _) => none
  | (ds, r) => some (ds, r)

/-- The number at the front of a text, and what follows it. -/
def scan? (cs : List Char) : Option (Numeral × List Char) :=
  let (negative, r) := match cs with
    | '-' :: r => (true, r)
    | r => (false, r)
  match scanWhole? r with
  | none => none
  | some (whole, r) =>
    match scanFraction? r with
    | none => none
    | some (fraction, r) =>
      match r with
      | [] => some (⟨negative, whole, fraction, none⟩, [])
      | c :: r' =>
        if c = 'e' || c = 'E' then
          match scanExponent? r' with
          | none => none
          | some (e, r'') => some (⟨negative, whole, fraction, some e⟩, r'')
        else some (⟨negative, whole, fraction, none⟩, c :: r')

/-- Digits taken into a word that already holds `n`, and those that no longer fit. -/
def collect (n : Nat) : List Char → Nat × List Char
  | [] => (n, [])
  | d :: r =>
    let m := 10 * n + Decimal.digitVal d
    if m ≤ Word.greatestUnsigned then collect m r else (n, d :: r)

/-- The double of a power of ten up to the 308th. -/
def powerOfTen (k : Nat) : Float := Decimal.Binary64.ofRatio (Nat.pow 10 k) 1

/-- A double times `10^e`; `none` when the result is too large. Divisions by more than the 308th
power are done in steps, each by that power, until nothing is left. -/
def shift? : Nat → Float → Int → Option Float
  | 0, _, _ => some (Float.ofBits 0)
  | fuel + 1, x, e =>
    if e.natAbs ≤ 308 then
      if e ≥ 0 then
        let y := x * powerOfTen e.toNat
        if Decimal.Binary64.isFinite y then some y else none
      else some (x / powerOfTen e.natAbs)
    else if x == 0 then some x
    else if e ≥ 0 then none
    else shift? fuel (x / powerOfTen 308) (e + 308)

/-- The written exponent. -/
def exponentVal : Option (Bool × List Char) → Int
  | none => 0
  | some (true, ds) => -(Decimal.digitsVal ds : Int)
  | some (false, ds) => Decimal.digitsVal ds

/-- The double of a number, `none` when it is too large. -/
def float? (n : Numeral) : Option Float :=
  let (w, overflow) := collect 0 n.whole
  let (m, dropped) := collect w n.fraction
  let e := (overflow.length : Int) - (n.fraction.length - dropped.length) + exponentVal n.exponent
  match shift? 4 (UInt64.ofNat m).toFloat e with
  | some x => some (if n.negative then -x else x)
  | none => none

/-- The integer of a number written without point and exponent, where it fits a word. Minus zero
is none: its sign would be lost. -/
def integer? (n : Numeral) : Option Int :=
  if n.fraction.isEmpty && n.exponent.isNone then
    let v := Decimal.digitsVal n.whole
    if n.negative then
      if 0 < v && v ≤ 9223372036854775808 then some (-(v : Int)) else none
    else if v ≤ Word.greatestUnsigned then some v else none
  else none

/-- The value of a number. -/
def value? (n : Numeral) : Option Json :=
  match integer? n with
  | some i => some (.int i)
  | none => (float? n).map .float

end Numeral

end Turnstile.Json
