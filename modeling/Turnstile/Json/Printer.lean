import Turnstile.Text.Hex
import Turnstile.Decimal.Shortest
import Turnstile.Json.Basic

/-!
# JSON values as text

The compact form: no gap anywhere, members in the order in which they stand. In a string the
quote, the backslash and the characters below U+0020 are escaped, five of those by a letter.
-/

namespace Turnstile.Json

/-- A character as it stands in a JSON string. -/
def escape (c : Char) : List Char :=
  if c = '"' then ['\\', '"']
  else if c = '\\' then ['\\', '\\']
  else if c = '\x08' then ['\\', 'b']
  else if c = '\t' then ['\\', 't']
  else if c = '\n' then ['\\', 'n']
  else if c = '\x0c' then ['\\', 'f']
  else if c = '\r' then ['\\', 'r']
  else if c.toNat < 0x20 then
    ['\\', 'u', '0', '0', Text.hexDigit (c.toNat / 16), Text.hexDigit (c.toNat % 16)]
  else [c]

/-- A text in quotes. -/
def quoted (s : String) : List Char := '"' :: (s.toList.flatMap escape ++ ['"'])

mutual

/-- The text of a value. -/
def chars : Json → List Char
  | .null => ['n', 'u', 'l', 'l']
  | .bool true => ['t', 'r', 'u', 'e']
  | .bool false => ['f', 'a', 'l', 's', 'e']
  | .int n => Decimal.intText n
  | .float x => Decimal.Shortest.text x
  | .text s => quoted s
  | .array [] => ['[', ']']
  | .array (v :: r) => '[' :: (v.chars ++ charsItems r)
  | .object [] => ['\x7b', '\x7d']
  | .object ((k, v) :: r) => '\x7b' :: (quoted k ++ ':' :: (v.chars ++ charsMembers r))

/-- The items after the first, and the closing bracket. -/
def charsItems : List Json → List Char
  | [] => [']']
  | v :: r => ',' :: (v.chars ++ charsItems r)

/-- The members after the first, and the closing brace. -/
def charsMembers : Members → List Char
  | [] => ['\x7d']
  | (k, v) :: r => ',' :: (quoted k ++ ':' :: (v.chars ++ charsMembers r))

end

/-- The text of a value as a string. -/
def render (v : Json) : String := String.ofList v.chars

end Turnstile.Json
