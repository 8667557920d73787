/-!
# Double precision numbers as integers times powers of two

A finite double is `± m · 2^q` with whole `m` and `q`. `ofRatio` rounds a positive quotient to
the nearest double, a tie to the even mantissa; `toInteger` cuts a double to the integer before
its point.
-/

namespace Turnstile.Decimal.Binary64

/-- A finite double: its sign, and `magnitude · 2^exponent`. -/
structure Parts where
  negative : Bool
  magnitude : Nat
  exponent : Int

/-- The bits of infinity without a sign. -/
def infinityBits : Nat := 0x7FF * Nat.pow 2 52

/-- The parts of a double; `none` for the infinities and for what is no number. -/
def parts? (x : Float) : Option Parts :=
  let b := x.toBits.toNat
  let e : Nat := b / Nat.pow 2 52 % 2048
  let m : Nat := b % Nat.pow 2 52
  let negative := b / Nat.pow 2 63 == 1
  if e == 2047 then none
  else if e == 0 then some ⟨negative, m, -1074⟩
  else some ⟨negative, m + Nat.pow 2 52, (e : Int) - 1075⟩

/-- Neither infinite nor undefined. -/
def isFinite (x : Float) : Bool := (parts? x).isSome

/-- The quotient rounded to the nearest whole number, a tie to the even one. -/
def roundDiv (num den : Nat) : Nat :=
  let q := num / den
  let r := num % den
  if 2 * r < den then q
  else if 2 * r > den then q + 1
  else if q % 2 == 0 then q else q + 1

/-- The double nearest to `num / den`, both positive. -/
def ofRatio (num den : Nat) : Float :=
  if num == 0 then Float.ofBits 0
  else
    -- the exponent for which the mantissa has 53 bits, or the least one
    let guess : Int := (Nat.log2 num : Int) - (Nat.log2 den : Int) - 53
    let scaled (e : Int) : Nat × Nat :=
      if e ≥ 0 then (num, den * Nat.pow 2 e.toNat) else (num * Nat.pow 2 (-e).toNat, den)
    let floorAt (e : Int) : Nat := (scaled e).1 / (scaled e).2
    let e := if floorAt guess < Nat.pow 2 53 then guess else guess + 1
    let e := max e (-1074)
    let m := roundDiv (scaled e).1 (scaled e).2
    -- a mantissa rounded up to 2^53 carries into the exponent by itself
    let bits :=
      if m < Nat.pow 2 52 then m
      else ((e + 1074).toNat + 1) * Nat.pow 2 52 + (m - Nat.pow 2 52)
    Float.ofBits (UInt64.ofNat (min bits infinityBits))

/-- The integer before the point, `0` for what is no number, `none` for an infinity;
the sign of an infinity is read off its bits. -/
def toInteger (x : Float) : Option Int :=
  match parts? x with
  | none => if x.toBits.toNat % Nat.pow 2 52 == 0 then none else some 0
  | some p =>
    let n : Nat :=
      if p.exponent ≥ 0 then p.magnitude * Nat.pow 2 p.exponent.toNat
      else p.magnitude / Nat.pow 2 (-p.exponent).toNat
    some (if p.negative then -(n : Int) else n)

end Turnstile.Decimal.Binary64
