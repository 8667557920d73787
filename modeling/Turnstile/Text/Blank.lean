/-!
# White space, and the cutting of text at it

Text is handled as a list of characters: every function here is a recursion on that list.
`isBlank` is the Unicode property `White_Space`; `strip` removes it from both ends, and a text
that consists of it alone counts as blank everywhere in the library.
-/

namespace Turnstile.Text

/-- Unicode's property `White_Space`. -/
def isBlank (c : Char) : Bool :=
  let n := c.toNat
  (9 ≤ n && n ≤ 13) || n == 0x20 || n == 0x85 || n == 0xA0 || n == 0x1680 ||
    (0x2000 ≤ n && n ≤ 0x200A) || n == 0x2028 || n == 0x2029 || n == 0x202F ||
    n == 0x205F || n == 0x3000

/-- The text without its leading white space. -/
def stripLeft (cs : List Char) : List Char := cs.dropWhile isBlank

/-- The text without its trailing white space. -/
def stripRight (cs : List Char) : List Char := (cs.reverse.dropWhile isBlank).reverse

/-- The text without the white space around it. -/
def strip (cs : List Char) : List Char := stripRight (stripLeft cs)

/-- `strip` on strings. -/
def trim (s : String) : String := String.ofList (strip s.toList)

/-- A string is blank when it holds nothing but white space. -/
def blank (s : String) : Bool := s.toList.all isBlank

/-- ASCII letters in lower case, every other character as it is. -/
def lower (s : String) : String := String.ofList (s.toList.map Char.toLower)

/-- ASCII letters in upper case, every other character as it is. -/
def upper (s : String) : String := String.ofList (s.toList.map Char.toUpper)

/-- The text before and after the first `c`, if there is one. -/
def cutAt (c : Char) : List Char → Option (List Char × List Char)
  | [] => none
  | d :: r =>
    if d = c then some ([], r)
    else (cutAt c r).map fun p => (d :: p.1, p.2)

/-- The pieces between the occurrences of `c`; a text without `c` is its own only piece. -/
def pieces (c : Char) : List Char → List (List Char)
  | [] => [[]]
  | d :: r =>
    if d = c then [] :: pieces c r
    else match pieces c r with
      | [] => [[d]]
      | p :: ps => (d :: p) :: ps

/-- The pieces of a string between the occurrences of `c`. -/
def split (c : Char) (s : String) : List String := (pieces c s.toList).map String.ofList

/-- `needle` stands somewhere in `hay` as a contiguous piece. -/
def occursIn (needle : List Char) : List Char → Bool
  | [] => needle.isEmpty
  | c :: r => needle.isPrefixOf (c :: r) || occursIn needle r

/-- `needle` is a contiguous piece of `hay`. -/
def contains (hay needle : String) : Bool := occursIn needle.toList hay.toList

/-- The pieces put one after the other with `sep` between them. -/
def joinWith (sep : List Char) : List (List Char) → List Char
  | [] => []
  | [p] => p
  | p :: ps => p ++ sep ++ joinWith sep ps

/-- `joinWith` on strings. -/
def join (sep : String) (ps : List String) : String :=
  String.ofList (joinWith sep.toList (ps.map String.toList))

end Turnstile.Text
