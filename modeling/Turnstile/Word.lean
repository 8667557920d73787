/-!
# Signed 64-bit amounts

Amounts of quota and points in time are integers between `least` and `greatest`. Where an
operation has to stay in that range it saturates: a result beyond an end becomes that end.
-/

namespace Turnstile.Word

/-- The least signed 64-bit integer. -/
def least : Int := -9223372036854775808

/-- The greatest signed 64-bit integer. -/
def greatest : Int := 9223372036854775807

/-- The greatest unsigned 64-bit integer. -/
def greatestUnsigned : Nat := 18446744073709551615

/-- The integer of the signed range that is nearest to `n`. -/
def saturate (n : Int) : Int := max least (min greatest n)

/-- Being a signed 64-bit integer. -/
def InRange (n : Int) : Prop := least ≤ n ∧ n ≤ greatest

instance (n : Int) : Decidable (InRange n) := inferInstanceAs (Decidable (_ ∧ _))

/-- The saturating sum. -/
def add (a b : Int) : Int := saturate (a + b)

/-- The saturating difference. -/
def sub (a b : Int) : Int := saturate (a - b)

/-- The saturating product. -/
def mul (a b : Int) : Int := saturate (a * b)

/-- The saturating sum of unsigned 64-bit integers. -/
def addUnsigned (a b : Nat) : Nat := min greatestUnsigned (a + b)

/-- A number of the range stays as it is. -/
theorem saturate_of_inRange {n : Int} (h : InRange n) : saturate n = n := by
  unfold InRange at h
  unfold saturate
  omega

/-- A saturated number lies in the range. -/
theorem inRange_saturate (n : Int) : InRange (saturate n) := by
  unfold InRange saturate least greatest
  omega

end Turnstile.Word
