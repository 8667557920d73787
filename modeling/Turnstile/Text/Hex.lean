/-!
# Hexadecimal digits

Digits are written in lower case and read in either case.
-/

namespace Turnstile.Text

/-- A hexadecimal digit in lower case. -/
def hexDigit (d : Nat) : Char := if d < 10 then Char.ofNat (48 + d) else Char.ofNat (87 + d)

/-- The value of a hexadecimal digit. -/
def hexVal? (c : Char) : Option Nat :=
  if c.isDigit then some (c.toNat - 48)
  else if 'a' ≤ c && c ≤ 'f' then some (c.toNat - 87)
  else if 'A' ≤ c && c ≤ 'F' then some (c.toNat - 55)
  else none

/-- Bytes as pairs of hexadecimal digits. -/
def hex (bytes : List UInt8) : List Char :=
  bytes.flatMap fun b => [hexDigit (b.toNat / 16), hexDigit (b.toNat % 16)]

/-- The digits of a number in base sixteen, at least one. -/
def hexNat (n : Nat) : List Char :=
  if n < 16 then [hexDigit n] else hexNat (n / 16) ++ [hexDigit (n % 16)]
termination_by n
decreasing_by omega

/-- Digits in base sixteen, at least one and nothing else. -/
def readHex? (cs : List Char) : Option Nat :=
  if cs.isEmpty then none
  else cs.foldl (fun n c => match n, hexVal? c with
    | some n, some d => some (16 * n + d)
    | _, _ => none) (some 0)

end Turnstile.Text
