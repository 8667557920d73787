import Turnstile.Text.Hex
import Turnstile.Decimal.Integer
import Turnstile.Pattern.Basic

/-!
# Patterns in writing

Patterns are written in the usual notation of regular expressions, without look-around and without
references back: `.`, `^`, `$`, bracketed sets with ranges, nested sets and the operations `&&`,
`--` and `~~`, the classes `\d`, `\s`, `\w` and their complements, groups, alternatives, and the
repetitions `*`, `+`, `?` and `{n,m}`, lazy with a `?` behind. Flags stand in a group of their own
or before a colon. No two groups have the same name. What is not of this form is refused; the
classes by property, `\p` and `\P`, are not of it.

Without the flag for Unicode a pattern keeps to ASCII: of the classes and of words only that part
counts, letters beyond it have no case, and a set may not reach beyond it. There, too, the dot is
refused.
-/

namespace Turnstile.Pattern.Reader

/-- The flags in force. -/
structure Flags where
  ignoreCase : Bool := false
  manyLines : Bool := false
  dotTakesLineFeed : Bool := false
  swapGreed : Bool := false
  unicode : Bool := true
  spaced : Bool := false
  returns : Bool := false
  deriving Repr

/-- What is read, and the text behind it. -/
abbrev Step? (α : Type) := Option (α × List Char)

/-! ## Characters -/

/-- The last ASCII character. -/
def lastAscii : Char := '\x7f'

/-- What counts of a set under the flags: without the one for Unicode, its ASCII part. -/
def counted (f : Flags) (s : CharSet) : CharSet :=
  if f.unicode then s else .both s (.range '\x00' lastAscii)

/-- The flags allow a set. Beyond ASCII it holds all characters or none if they do not name
Unicode, so that one is enough to look at. -/
def allows (f : Flags) (s : CharSet) : Bool := f.unicode || !s.holds '\x80'

/-- The flags allow a character in a set. -/
def allowsChar (f : Flags) (c : Char) : Bool := f.unicode || c ≤ lastAscii

/-- A set with its counterparts, if the case is ignored. -/
def folded (f : Flags) (s : CharSet) : CharSet :=
  if f.ignoreCase then counted f (.ignoringCase s) else s

/-- The set of one character under the flags. -/
def literal (f : Flags) (c : Char) : CharSet :=
  if allowsChar f c then folded f (.single c) else .single c

/-- The class of a letter. -/
def perlClass? (f : Flags) (c : Char) : Option CharSet :=
  if c = 'd' then some (counted f .digit)
  else if c = 's' then some (counted f .blank)
  else if c = 'w' then some (counted f .word)
  else if c = 'D' then some (.negate (counted f .digit))
  else if c = 'S' then some (.negate (counted f .blank))
  else if c = 'W' then some (.negate (counted f .word))
  else none

/-- The control character that a letter stands for behind a backslash. -/
def controlLetter? (c : Char) : Option Char :=
  if c = 'a' then some '\x07'
  else if c = 'f' then some '\x0c'
  else if c = 't' then some '\t'
  else if c = 'n' then some '\n'
  else if c = 'r' then some '\r'
  else if c = 'v' then some '\x0b'
  else none

/-- The character of a code point, if there is one. -/
def char? (n : Nat) : Option Char :=
  if n < 0xD800 || (0xDFFF < n && n < 0x110000) then some (Char.ofNat n) else none

/-- A code point in hexadecimal: digits in braces, or `count` digits. -/
def codePoint? (count : Nat) : List Char → Step? Char
  | '\x7b' :: r =>
    let ds := r.takeWhile (· ≠ '\x7d')
    match r.dropWhile (· ≠ '\x7d'), Text.readHex? ds with
    | _ :: r', some n => (char? n).map fun c => (c, r')
    | _, _ => none
  | r =>
    let ds := r.take count
    if ds.length < count then none
    else match Text.readHex? ds with
      | some n => (char? n).map fun c => (c, r.drop count)
      | none => none

/-- Characters that a backslash takes as they are: ASCII but letters, digits and angle brackets. -/
def escapable (c : Char) : Bool :=
  c.toNat < 0x80 && !c.isAlphanum && c ≠ '<' && c ≠ '>'

/-- What stands behind a backslash. -/
inductive Escape where
  | char (c : Char)
  | set (s : CharSet)
  | look (l : Look)

/-- The condition named in braces behind `\b`, or the word boundary. -/
def boundary (letters : CharSet) (cs : List Char) : Escape × List Char :=
  match cs with
  | '\x7b' :: r =>
    let name := String.ofList (r.takeWhile (· ≠ '\x7d'))
    match r.dropWhile (· ≠ '\x7d') with
    | _ :: r' =>
      if name = "start" then (.look (.wordStart letters), r')
      else if name = "end" then (.look (.wordEnd letters), r')
      else if name = "start-half" then (.look (.wordStartHalf letters), r')
      else if name = "end-half" then (.look (.wordEndHalf letters), r')
      else (.look (.wordBoundary letters), cs)
    | [] => (.look (.wordBoundary letters), cs)
  | _ => (.look (.wordBoundary letters), cs)

/-- Reads what stands behind a backslash. -/
def escape? (f : Flags) : List Char → Step? Escape
  | [] => none
  | c :: r =>
    let letters := counted f .word
    match perlClass? f c with
    | some s => if allows f s then some (.set s, r) else none
    | none => match controlLetter? c with
      | some d => some (.char d, r)
      | none =>
        if c = 'x' then match codePoint? 2 r with
          | some (d, r') =>
            -- Two digits alone stand for a byte, which is no character beyond ASCII.
            if allowsChar f d || r.head? = some '\x7b' then some (.char d, r') else none
          | none => none
        else if c = 'u' then (codePoint? 4 r).map fun p => (.char p.1, p.2)
        else if c = 'U' then (codePoint? 8 r).map fun p => (.char p.1, p.2)
        else if c = 'A' then some (.look .textStart, r)
        else if c = 'z' then some (.look .textEnd, r)
        else if c = 'b' then some (boundary letters r)
        else if c = 'B' then some (.look (.notWordBoundary letters), r)
        else if c = '<' then some (.look (.wordStart letters), r)
        else if c = '>' then some (.look (.wordEnd letters), r)
        else if escapable c then some (.char c, r)
        else none

/-! ## Bracketed sets -/

/-- The union of sets. -/
def unionAll (ss : List CharSet) : CharSet := ss.foldl .union .none

/-- Sets of ASCII characters by name. -/
def namedClass? (name : String) : Option CharSet :=
  let range (a b : Char) := CharSet.range a b
  let alpha := CharSet.union (range 'a' 'z') (range 'A' 'Z')
  let figure := range '0' '9'
  if name = "alnum" then some (.union alpha figure)
  else if name = "alpha" then some alpha
  else if name = "ascii" then some (range '\x00' '\x7f')
  else if name = "blank" then some (unionAll [.single ' ', .single '\t'])
  else if name = "cntrl" then some (.union (range '\x00' '\x1f') (.single '\x7f'))
  else if name = "digit" then some figure
  else if name = "graph" then some (range '!' '~')
  else if name = "lower" then some (range 'a' 'z')
  else if name = "print" then some (range ' ' '~')
  else if name = "punct" then
    some (unionAll [range '!' '/', range ':' '@', range '[' '\x60', range '\x7b' '~'])
  else if name = "space" then some (.union (range '\t' '\r') (.single ' '))
  else if name = "upper" then some (range 'A' 'Z')
  else if name = "word" then some (unionAll [alpha, figure, .single '_'])
  else if name = "xdigit" then some (unionAll [figure, range 'a' 'f', range 'A' 'F'])
  else none

/-- A named class behind its opening `[:`. -/
def named? (cs : List Char) : Step? CharSet :=
  let (negated, r) := match cs with
    | '^' :: r => (true, r)
    | r => (false, r)
  let name := String.ofList (r.takeWhile (· ≠ ':'))
  match r.dropWhile (· ≠ ':') with
  | ':' :: ']' :: r' => (namedClass? name).map fun s => (if negated then .negate s else s, r')
  | _ => none

/-- An operation between two sets. -/
inductive SetOp where
  | both
  | without
  | eitherNotBoth

/-- Applies an operation. -/
def SetOp.apply (s t : CharSet) : SetOp → CharSet
  | both => .both s t
  | without => .both s (.negate t)
  | eitherNotBoth => .both (.union s t) (.negate (.both s t))

/-- The set read so far: the operand on the left of the last operation, and the items since. -/
def close (f : Flags) (left : Option (CharSet × SetOp)) (items : CharSet) : CharSet :=
  match left with
  | none => items
  | some (s, op) => op.apply (folded f s) (folded f items)

/-- The text without the blanks and comments at its front, where these do not count. -/
def skip (f : Flags) (cs : List Char) : List Char :=
  if f.spaced then go cs.length cs else cs
where
  /-- Drops blanks and comments. -/
  go : Nat → List Char → List Char
    | 0, cs => cs
    | fuel + 1, cs => match cs.dropWhile Text.isBlank with
      | '#' :: r => go fuel ((r.dropWhile (· ≠ '\n')).drop 1)
      | r => r

/-- One item of a set that is no set itself: a character, or a class behind a backslash. -/
def item? (f : Flags) : List Char → Step? Escape
  | [] => none
  | '\\' :: r => match escape? f r with
    | some (.char c, r') => if allowsChar f c then some (.char c, r') else none
    | some (.set s, r') => some (.set s, r')
    | _ => none
  | c :: r => if allowsChar f c then some (.char c, r) else none

/-- A range or a single item. -/
def range? (f : Flags) (cs : List Char) : Step? CharSet :=
  match item? f cs with
  | none => none
  | some (first, r) =>
    let alone : Step? CharSet := match first with
      | .char c => some (.single c, r)
      | .set s => some (s, r)
      | .look _ => none
    match skip f r with
    | '-' :: r' => match skip f r' with
      | [] => none
      | ']' :: _ => alone
      | '-' :: _ => alone
      | r'' => match first, item? f r'' with
        | .char a, some (.char b, rest) => if a ≤ b then some (.range a b, rest) else none
        | _, _ => none
    | _ => alone

/-- The hyphens at the front of a set stand for themselves. -/
def leadingHyphens (cs : List Char) : CharSet × List Char :=
  match cs.takeWhile (· = '-') with
  | [] => (.none, cs)
  | _ => (.single '-', cs.dropWhile (· = '-'))

mutual

/-- A set behind its opening bracket. -/
def set? : Nat → Flags → List Char → Step? CharSet
  | 0, _, _ => none
  | fuel + 1, f, cs =>
    let (negated, r) := match skip f cs with
      | '^' :: r => (true, r)
      | r => (false, r)
    let (items, r) := leadingHyphens (skip f r)
    let start := match items, r with
      | .range 'b' 'a', ']' :: r' => (CharSet.single ']', r')
      | _, _ => (items, r)
    match setItems? fuel f none start.1 start.2 with
    | none => none
    | some (s, r) =>
      let s := if negated then .negate (folded f s) else folded f s
      if allows f s then some (s, r) else none

/-- The items of a set up to its closing bracket. -/
def setItems? : Nat → Flags → Option (CharSet × SetOp) → CharSet → List Char → Step? CharSet
  | 0, _, _, _, _ => none
  | fuel + 1, f, left, items, cs => match skip f cs with
    | [] => none
    | ']' :: r => some (close f left items, r)
    | '[' :: ':' :: r => match named? r with
      | some (s, r') => if allows f s then setItems? fuel f left (.union items s) r' else none
      | none => match set? fuel f (':' :: r) with
        | none => none
        | some (s, r') => setItems? fuel f left (.union items s) r'
    | '[' :: r => match set? fuel f r with
      | none => none
      | some (s, r') => setItems? fuel f left (.union items s) r'
    | '&' :: '&' :: r => setItems? fuel f (some (close f left items, .both)) .none r
    | '-' :: '-' :: r => setItems? fuel f (some (close f left items, .without)) .none r
    | '~' :: '~' :: r => setItems? fuel f (some (close f left items, .eitherNotBoth)) .none r
    | r => match range? f r with
      | none => none
      | some (s, r') => setItems? fuel f left (.union items s) r'

end

/-! ## Repetitions -/

/-- A count in a repetition, with blanks around it. -/
def count? (cs : List Char) : Option Nat :=
  match Decimal.readNat? (Text.strip cs) with
  | some n => if n < 4294967296 then some n else none
  | none => none

/-- The least and the greatest number of times, behind the opening brace. -/
def counts? (cs : List Char) : Step? (Nat × Option Nat) :=
  match Text.cutAt '\x7d' cs with
  | none => none
  | some (inner, r) => match Text.cutAt ',' inner with
    | none => (count? inner).map fun n => ((n, some n), r)
    | some (a, b) => match count? a with
      | none => none
      | some least =>
        if (Text.strip b).isEmpty then some ((least, none), r)
        else match count? b with
          | some most => if least ≤ most then some ((least, some most), r) else none
          | none => none

/-- The number of times at the front of a text, if a repetition stands there; `none` inside where
one begins and is not of the form. -/
def times? (cs : List Char) : Option (Step? (Nat × Option Nat)) :=
  match cs with
  | '*' :: r => some (some ((0, none), r))
  | '+' :: r => some (some ((1, none), r))
  | '?' :: r => some (some ((0, some 1), r))
  | '\x7b' :: r => some (counts? r)
  | _ => none

/-! ## Groups and flags -/

/-- Sets a flag by its letter. -/
def setFlag? (f : Flags) (on : Bool) (c : Char) : Option Flags :=
  if c = 'i' then some { f with ignoreCase := on }
  else if c = 'm' then some { f with manyLines := on }
  else if c = 's' then some { f with dotTakesLineFeed := on }
  else if c = 'U' then some { f with swapGreed := on }
  else if c = 'u' then some { f with unicode := on }
  else if c = 'x' then some { f with spaced := on }
  else if c = 'R' then some { f with returns := on }
  else none

/-- Flags up to a closing parenthesis or a colon. Each flag may stand once, and a minus sign has
to be followed by one. -/
def flags? (f : Flags) (seen : List Char) (on : Bool) (dangling : Bool) :
    List Char → Step? (Flags × Bool)
  | [] => none
  | ')' :: r => if dangling || seen.isEmpty then none else some ((f, false), r)
  | ':' :: r => if dangling then none else some ((f, true), r)
  | '-' :: r => if on then flags? f seen false true r else none
  | c :: r =>
    if seen.contains c then none
    else match setFlag? f on c with
      | none => none
      | some f => flags? f (c :: seen) on false r

/-- The name of a group. -/
def groupName? (cs : List Char) : Step? (List Char) :=
  let name := cs.takeWhile (· ≠ '>')
  let start (c : Char) : Bool := c = '_' || (Text.isWordCharacter c && !Text.isDecimalDigit c)
  let inner (c : Char) : Bool :=
    c = '_' || c = '.' || c = '[' || c = ']' || Text.isWordCharacter c
  match name, cs.dropWhile (· ≠ '>') with
  | c :: more, _ :: r => if start c && more.all inner then some (name, r) else none
  | _, _ => none

/-- The beginning of a group: flags for what follows in the group around it, or its name, the flags
and the text inside. -/
inductive GroupStart where
  | flags (f : Flags) (r : List Char)
  | inside (name : Option (List Char)) (f : Flags) (r : List Char)

/-- Reads the beginning of a group behind its parenthesis. -/
def groupStart? (f : Flags) : List Char → Option GroupStart
  | '?' :: 'P' :: '<' :: r => (groupName? r).map fun p => .inside (some p.1) f p.2
  | '?' :: '<' :: r => (groupName? r).map fun p => .inside (some p.1) f p.2
  | '?' :: r => match flags? f [] true false r with
    | some ((f', true), r') => some (.inside none f' r')
    | some ((f', false), r') => some (.flags f' r')
    | none => none
  | r => some (.inside none f r)

/-- The pattern of one character or class that is neither group, set nor repetition. -/
def atom? (f : Flags) : List Char → Step? Pattern
  | [] => none
  | '.' :: r =>
    let s : CharSet :=
      if f.dotTakesLineFeed then .any else if f.returns then .notLineEnd else .notLineFeed
    if allows f s then some (.set s, r) else none
  | '^' :: r => some (.look (if f.manyLines then .lineStart f.returns else .textStart), r)
  | '$' :: r => some (.look (if f.manyLines then .lineEnd f.returns else .textEnd), r)
  | '\\' :: r => match escape? f r with
    | some (.char c, r') => some (.set (literal f c), r')
    | some (.set s, r') => some (.set (folded f s), r')
    | some (.look l, r') => some (.look l, r')
    | none => none
  | c :: r => some (.set (literal f c), r)

/-! ## Patterns -/

/-- What has been read of one alternative, the last item first. Flags in the middle leave an item
that cannot be repeated. -/
abbrev Items := List (Option Pattern)

/-- The pattern of the items. -/
def Items.pattern (items : Items) : Pattern := Pattern.sequence (items.reverse.filterMap id)

/-- Reads alternatives up to the end of the text or of the group, and answers with the names of the
groups so far and the text from there on. -/
def body? : Nat → Flags → List (List Char) → List Pattern → Items → List Char →
    Step? (Pattern × List (List Char))
  | 0, _, _, _, _, _ => none
  | fuel + 1, f, names, alts, items, cs =>
    let cs := skip f cs
    match times? cs with
    | some none => none
    | some (some ((least, most), r)) => match items with
      | some p :: more =>
        let (lazy, r) := match r with
          | '?' :: r => (true, r)
          | r => (false, r)
        body? fuel f names alts (some (.rep p least most (lazy == f.swapGreed)) :: more) r
      | _ => none
    | none => match cs with
      | [] => some ((Pattern.choice (alts.reverse ++ [Items.pattern items]), names), [])
      | ')' :: _ => some ((Pattern.choice (alts.reverse ++ [Items.pattern items]), names), cs)
      | '|' :: r => body? fuel f names (Items.pattern items :: alts) [] r
      | '(' :: r => match groupStart? f r with
        | none => none
        | some (.flags f' r') => body? fuel f' names alts (none :: items) r'
        | some (.inside name f' r') =>
          if name.any names.contains then none
          else match body? fuel f' (name.toList ++ names) [] [] r' with
            | some ((p, names'), ')' :: r'') => body? fuel f names' alts (some p :: items) r''
            | _ => none
      | '[' :: r => match set? fuel f r with
        | none => none
        | some (s, r') => body? fuel f names alts (some (.set s) :: items) r'
      | cs => match atom? f cs with
        | none => none
        | some (p, r') => body? fuel f names alts (some p :: items) r'

end Turnstile.Pattern.Reader

namespace Turnstile.Pattern

/-- Reads a pattern. -/
def read? (s : String) : Option Pattern :=
  let cs := s.toList
  match Reader.body? (4 * cs.length + 4) {} [] [] [] cs with
  | some ((p, _), []) => some p
  | _ => none

end Turnstile.Pattern
