import Turnstile.Text.Blank
import Turnstile.Text.WordCharacter
import Turnstile.Text.DecimalDigit
import Turnstile.Text.CaseFold

/-!
# Text patterns

A pattern describes texts: sets of characters, one after the other, one or the other, again and
again, with conditions on what stands around a place. Of several ways to match, the pattern states
which is preferred: the left alternative before the right one, and repeating before stopping unless
the repetition is lazy.
-/

namespace Turnstile

/-- A set of characters. -/
inductive CharSet where
  | range (first last : Char)
  | digit
  | word
  | blank
  | negate (s : CharSet)
  | union (s t : CharSet)
  | both (s t : CharSet)
  | ignoringCase (s : CharSet)
  deriving DecidableEq, Repr

namespace CharSet

/-- No character. -/
def none : CharSet := .range 'b' 'a'

/-- One character. -/
def single (c : Char) : CharSet := .range c c

/-- Every character but the line feed. -/
def notLineFeed : CharSet := .negate (single '\n')

/-- Every character but the line feed and the carriage return. -/
def notLineEnd : CharSet := .negate (.union (single '\n') (single '\r'))

/-- Every character. -/
def any : CharSet := .negate none

/-- The set holds a character. Ignoring case, it holds one of which it holds a counterpart. -/
def holds : CharSet → Char → Bool
  | range first last, c => first ≤ c && c ≤ last
  | digit, c => Text.isDecimalDigit c
  | word, c => Text.isWordCharacter c
  | blank, c => Text.isBlank c
  | negate s, c => !s.holds c
  | union s t, c => s.holds c || t.holds c
  | both s t, c => s.holds c && t.holds c
  | ignoringCase s, c => s.holds c || (Text.caseCounterparts c).any s.holds

end CharSet

/-- A condition on the characters before and after a place. Lines end at line feeds, or, if the
condition says so, at each of carriage return, line feed and the two together. What a word consists
of is stated with the conditions on words. -/
inductive Look where
  | textStart
  | textEnd
  | lineStart (returns : Bool)
  | lineEnd (returns : Bool)
  | wordBoundary (letters : CharSet)
  | notWordBoundary (letters : CharSet)
  | wordStart (letters : CharSet)
  | wordEnd (letters : CharSet)
  | wordStartHalf (letters : CharSet)
  | wordEndHalf (letters : CharSet)
  deriving DecidableEq, Repr

namespace Look

/-- There is a character and it can be part of a word. -/
def inWord (letters : CharSet) : Option Char → Bool
  | some c => letters.holds c
  | none => false

/-- The condition holds between two characters; at the ends of a text one of them is missing. -/
def holds (before after : Option Char) : Look → Bool
  | textStart => before.isNone
  | textEnd => after.isNone
  | lineStart returns =>
    before.isNone || before == some '\n' ||
      (returns && before == some '\r' && after != some '\n')
  | lineEnd returns =>
    after.isNone || (returns && after == some '\r') ||
      (after == some '\n' && !(returns && before == some '\r'))
  | wordBoundary letters => inWord letters before != inWord letters after
  | notWordBoundary letters => inWord letters before == inWord letters after
  | wordStart letters => !inWord letters before && inWord letters after
  | wordEnd letters => inWord letters before && !inWord letters after
  | wordStartHalf letters => !inWord letters before
  | wordEndHalf letters => !inWord letters after

end Look

/-- A pattern. A repetition states the least and, if there is one, the greatest number of times. -/
inductive Pattern where
  | empty
  | set (s : CharSet)
  | look (l : Look)
  | seq (p q : Pattern)
  | alt (p q : Pattern)
  | rep (p : Pattern) (least : Nat) (most : Option Nat) (greedy : Bool)
  deriving DecidableEq, Repr

namespace Pattern

/-- One pattern after the other. -/
def andThen : Pattern → Pattern → Pattern
  | empty, q => q
  | p, q => .seq p q

/-- Patterns one after the other. -/
def sequence (ps : List Pattern) : Pattern := ps.foldr andThen .empty

/-- One of at least one pattern, the earlier preferred. -/
def choice : List Pattern → Pattern
  | [] => .empty
  | [p] => p
  | p :: ps => .alt p (choice ps)

/-- How a pattern can go on at a place, the preferred way first: `none` ends there, and `some q`
takes the character after the place and goes on with `q`. Of a repetition, a round that takes
nothing ends it. -/
def heads (before after : Option Char) : Pattern → List (Option Pattern)
  | empty => [none]
  | set s => match after with
    | some c => if s.holds c then [some .empty] else []
    | none => []
  | look l => if l.holds before after then [none] else []
  | seq p q => (heads before after p).flatMap fun
    | none => heads before after q
    | some r => [some (r.andThen q)]
  | alt p q => heads before after p ++ heads before after q
  | rep p least most greedy =>
    if most = some 0 then [none]
    else
      let rounds := heads before after p
      let again := .rep p (least - 1) (most.map (· - 1)) greedy
      if 0 < least then rounds.map fun
        | none => none
        | some r => some (r.andThen again)
      else
        let taking := rounds.map fun
          | none => none
          | some r => some (r.andThen again)
        if greedy then taking ++ [none] else none :: taking

/-- The ways before the first that ends, and whether one ends: those after it are not preferred. -/
def untilEnd : List (Option Pattern) → List Pattern × Bool
  | [] => ([], false)
  | none :: _ => ([], true)
  | some p :: r => match untilEnd r with
    | (ps, done) => (p :: ps, done)

/-- Follows the ways that are open, the preferred first, through a text. The result is the number
of characters taken where the preferred way ends: `best` if no way open ends. -/
def follow (ways : List Pattern) (before : Option Char) (taken : Nat) (best : Option Nat) :
    List Char → Option Nat
  | [] =>
    if (untilEnd (ways.flatMap (heads before none))).2 then some taken else best
  | c :: r =>
    match untilEnd (ways.flatMap (heads before (some c))) with
    | (live, done) =>
      let best := if done then some taken else best
      if live.isEmpty then best
      else follow live.eraseDups (some c) (taken + 1) best r

/-- The number of characters that the pattern takes from the front of a text in the preferred
way. -/
def matchLength? (p : Pattern) (before : Option Char) (cs : List Char) : Option Nat :=
  follow [p] before 0 none cs

/-- The matches from here on, leftmost first: each by the place of its first character and the place
behind its last one. The text begins at `place`. `inside` characters still belong to a match; `free`
is false where a match has just ended, and there no match without characters is taken. -/
def spansFrom (p : Pattern) (before : Option Char) (place inside : Nat) (free : Bool) :
    List Char → List (Nat × Nat)
  | [] =>
    if inside = 0 && free && (p.matchLength? before []).isSome then [(place, place)] else []
  | c :: r => match inside with
    | n + 1 => spansFrom p (some c) (place + 1) n false r
    | 0 => match p.matchLength? before (c :: r) with
      | none => spansFrom p (some c) (place + 1) 0 true r
      | some 0 =>
        if free then (place, place) :: spansFrom p (some c) (place + 1) 0 true r
        else spansFrom p (some c) (place + 1) 0 true r
      | some (n + 1) => (place, place + n + 1) :: spansFrom p (some c) (place + 1) n false r

end Pattern

end Turnstile
