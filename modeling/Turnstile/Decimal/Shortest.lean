import Turnstile.Decimal.Integer
import Turnstile.Decimal.Binary64

/-!
# The shortest decimal text of a double

The digits are the fewest that read back as the same double, and of those the nearest to it.
A number whose decimal exponent lies between `-5` and `15` is written out, any other one with an
exponent; a point or an exponent is always there, so that the text is no integer.
-/

namespace Turnstile.Decimal.Shortest

/-- The exponent of the first decimal digit of `num / den`, both positive. -/
def firstDigit (num den : Nat) : Int :=
  if num ≥ den then (natText (num / den)).length - 1
  else -((natText ((den + num - 1) / num - 1)).length : Int)

/-- A point of the decimal grid of step `10^k`, as `digits · 10^k`. -/
structure Point where
  digits : Nat
  exponent : Int

/-- The reals that read back as one double: `value` lies strictly between `low` and `high`, all
three over `den`; the ends belong to it when `closed`. -/
structure Interval where
  low : Nat
  value : Nat
  high : Nat
  den : Nat
  closed : Bool

/-- The interval of the positive double `magnitude · 2^exponent`. -/
def interval (p : Binary64.Parts) : Interval :=
  let m := p.magnitude
  let down := if m == Nat.pow 2 52 && p.exponent > -1074 then 1 else 2
  let e := p.exponent - 2
  let up := if e ≥ 0 then Nat.pow 2 e.toNat else 1
  let den := if e ≥ 0 then 1 else Nat.pow 2 (-e).toNat
  ⟨(4 * m - down) * up, 4 * m * up, (4 * m + 2) * up, den, m % 2 == 0⟩

/-- The point of the grid `10^k` that lies in the interval and is nearest to its value. -/
def onGrid (i : Interval) (k : Int) : Option Point :=
  let up := if k ≥ 0 then 1 else Nat.pow 10 (-k).toNat
  let step := (if k ≥ 0 then Nat.pow 10 k.toNat else 1) * i.den
  let low := i.low * up
  let value := i.value * up
  let high := i.high * up
  let d := value / step
  let inside (n : Nat) : Bool :=
    n > 0 && (low < n * step || (i.closed && low == n * step)) &&
      (n * step < high || (i.closed && n * step == high))
  let below := 2 * (value % step) < step || (2 * (value % step) == step && d % 2 == 0)
  match inside d, inside (d + 1) with
  | true, true => some ⟨if below then d else d + 1, k⟩
  | true, false => some ⟨d, k⟩
  | false, true => some ⟨d + 1, k⟩
  | false, false => none

/-- The coarsest grid from `10^k` downwards that has a point in the interval. -/
def search (i : Interval) : Nat → Int → Point
  | 0, k => ⟨0, k⟩
  | fuel + 1, k => match onGrid i k with
    | some p => p
    | none => search i fuel (k - 1)

/-- The shortest point of a positive double. -/
def point (p : Binary64.Parts) : Point :=
  let i := interval p
  search i 25 (firstDigit i.value i.den + 1)

/-- Digits with a point after `whole` of them, zeros filled in on either side. -/
def positional (ds : List Char) (e : Int) : List Char :=
  if e < 0 then "0.".toList ++ List.replicate (-e - 1).toNat '0' ++ ds
  else
    let whole := e.toNat + 1
    if ds.length ≤ whole then ds ++ List.replicate (whole - ds.length) '0' ++ ".0".toList
    else ds.take whole ++ '.' :: ds.drop whole

/-- One digit before the point, and the exponent with its sign. -/
def scientific (ds : List Char) (e : Int) : List Char :=
  let head := match ds with
    | [] => []
    | [d] => [d]
    | d :: r => d :: '.' :: r
  head ++ 'e' :: (if e < 0 then '-' else '+') :: natText e.natAbs

/-- The text of a double; what is no finite number is `null`. -/
def text (x : Float) : List Char :=
  match Binary64.parts? x with
  | none => "null".toList
  | some p =>
    let sign := if p.negative then ['-'] else []
    if p.magnitude == 0 then sign ++ "0.0".toList
    else
      let pt := point p
      let all := natText pt.digits
      let e := pt.exponent + all.length - 1
      let ds := (all.reverse.dropWhile (· == '0')).reverse
      sign ++ if -5 ≤ e && e ≤ 15 then positional ds e else scientific ds e

end Turnstile.Decimal.Shortest
