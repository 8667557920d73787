import Turnstile.Text.Hex
import Turnstile.Text.Unprintable

/-!
# Text quoted for a reader

In messages a text stands in double quotes. Quotes and backslashes are escaped, tab, line feed,
carriage return and the null character by a letter, and what does not show by its number.
-/

namespace Turnstile.Text

/-- A character as it stands between the quotes. -/
def quotedChar (c : Char) : List Char :=
  if c = '\x00' then ['\\', '0']
  else if c = '\t' then ['\\', 't']
  else if c = '\n' then ['\\', 'n']
  else if c = '\r' then ['\\', 'r']
  else if c = '"' then ['\\', '"']
  else if c = '\\' then ['\\', '\\']
  else if isUnprintable c then '\\' :: 'u' :: '\x7b' :: (hexNat c.toNat ++ ['\x7d'])
  else [c]

/-- A text in quotes. -/
def quote (s : String) : String :=
  String.ofList ('"' :: (s.toList.flatMap quotedChar ++ ['"']))

end Turnstile.Text
