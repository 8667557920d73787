import Turnstile.Word

/-!
# Integers in decimal digits

`natText` and `intText` write an integer without a leading zero or plus sign. The readers take
an optional sign and at least one digit, and refuse a number outside the 64-bit range that they
read for; leading zeros are allowed.
-/

namespace Turnstile.Decimal

/-- One decimal digit. -/
def digitChar (d : Nat) : Char := Char.ofNat (48 + d)

/-- The value of a decimal digit. -/
def digitVal (c : Char) : Nat := c.toNat - 48

/-- The decimal digits of a number, the most significant first. -/
def natText (n : Nat) : List Char :=
  if n < 10 then [digitChar n] else natText (n / 10) ++ [digitChar (n % 10)]
termination_by n
decreasing_by omega

/-- An integer in decimal digits, with a minus sign before a negative one. -/
def intText (n : Int) : List Char :=
  if n < 0 then '-' :: natText n.natAbs else natText n.natAbs

/-- The number that a list of digits denotes. -/
def digitsVal (ds : List Char) : Nat := ds.foldl (fun n d => 10 * n + digitVal d) 0

/-- A text of at least one digit and nothing else. -/
def readNat? (cs : List Char) : Option Nat :=
  if cs.isEmpty || !cs.all Char.isDigit then none else some (digitsVal cs)

/-- An integer with an optional sign, whatever its size. -/
def readInt? : List Char → Option Int
  | '-' :: r => (readNat? r).map fun n => -(n : Int)
  | '+' :: r => (readNat? r).map fun n => (n : Int)
  | r => (readNat? r).map fun n => (n : Int)

/-- A signed 64-bit integer with an optional sign. -/
def readSigned? (cs : List Char) : Option Int :=
  match readInt? cs with
  | some n => if Word.InRange n then some n else none
  | none => none

/-- An unsigned 64-bit integer with an optional plus sign. -/
def readUnsigned? (cs : List Char) : Option Nat :=
  match readNat? (if cs.head? = some '+' then cs.drop 1 else cs) with
  | some n => if n ≤ Word.greatestUnsigned then some n else none
  | none => none

/-- An integer as a string. -/
def int (n : Int) : String := String.ofList (intText n)

/-- A number as a string. -/
def nat (n : Nat) : String := String.ofList (natText n)

end Turnstile.Decimal
