/-!
# Text from bytes

`decode` reads UTF-8. Bytes that are none become U+FFFD, one for each longest piece that could
begin a character; the flag tells whether there were any.
-/

namespace Turnstile.Text.Utf8

/-- A byte that continues a character, within bounds. -/
def continues (low high : Nat) (b : UInt8) : Bool := low ≤ b.toNat && b.toNat ≤ high

/-- The bounds of the second byte behind a first one, and how many more follow. -/
def lead? (b : Nat) : Option (Nat × Nat × Nat) :=
  if 0xC2 ≤ b && b ≤ 0xDF then some (0x80, 0xBF, 0)
  else if b = 0xE0 then some (0xA0, 0xBF, 1)
  else if b = 0xED then some (0x80, 0x9F, 1)
  else if 0xE1 ≤ b && b ≤ 0xEF then some (0x80, 0xBF, 1)
  else if b = 0xF0 then some (0x90, 0xBF, 2)
  else if 0xF1 ≤ b && b ≤ 0xF3 then some (0x80, 0xBF, 2)
  else if b = 0xF4 then some (0x80, 0x8F, 2)
  else none

/-- The six low bits of a byte that continues a character. -/
def low (b : UInt8) : Nat := b.toNat % 64

/-- One character, or a piece that is none, and the bytes behind it. -/
def next (b : UInt8) (r : List UInt8) : Option Char × List UInt8 :=
  if b.toNat < 0x80 then (some (Char.ofNat b.toNat), r)
  else match lead? b.toNat with
    | none => (none, r)
    | some (least, greatest, more) => match r with
      | [] => (none, [])
      | c :: r1 =>
        if !continues least greatest c then (none, c :: r1)
        else if more = 0 then
          (some (Char.ofNat (b.toNat % 32 * 64 + low c)), r1)
        else match r1 with
          | [] => (none, [])
          | d :: r2 =>
            if !continues 0x80 0xBF d then (none, d :: r2)
            else if more = 1 then
              (some (Char.ofNat ((b.toNat % 16 * 64 + low c) * 64 + low d)), r2)
            else match r2 with
              | [] => (none, [])
              | e :: r3 =>
                if !continues 0x80 0xBF e then (none, e :: r3)
                else
                  (some (Char.ofNat (((b.toNat % 8 * 64 + low c) * 64 + low d) * 64 + low e)), r3)

/-- Reads at most `fuel` characters. -/
def decodeFrom : Nat → List UInt8 → List Char × Bool
  | 0, _ => ([], true)
  | _ + 1, [] => ([], true)
  | fuel + 1, b :: r => match next b r with
    | (c, r') => match decodeFrom fuel r' with
      | (cs, sound) => match c with
        | some c => (c :: cs, sound)
        | none => ('\ufffd' :: cs, false)

/-- The text of bytes, and whether they are UTF-8 throughout. -/
def decode (bytes : List UInt8) : List Char × Bool := decodeFrom bytes.length bytes

end Turnstile.Text.Utf8
