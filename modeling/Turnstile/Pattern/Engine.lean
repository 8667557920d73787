import Turnstile.Pattern.Reader

/-!
# Engines for patterns

An engine reads patterns in writing. Of a pattern that it has read only this is used: where its
matches stand in a text, one behind the other and none overlapping another. What stands there is
replaced as it is, and all else is kept.

`Pattern.engine` reads the notation of `Turnstile.Pattern.Reader` and no other, and refuses no
pattern for its size. An engine that knows more classes of characters, or one with such a bound, may
stand in its place.
-/

namespace Turnstile

/-- A pattern that was read: the matches in a text, from the left, each by the place of its first
character and the place behind its last one. -/
structure Finder where
  spans : List Char → List (Nat × Nat)

/-- Reads a pattern in writing, if it is one. -/
abbrev PatternEngine := String → Option Finder

namespace Finder

/-- A text that begins at a place, with `replacement` in place of what stands in each span. -/
def substitute (replacement : List Char) : Nat → List (Nat × Nat) → List Char → List Char
  | _, [], cs => cs
  | place, (first, last) :: rest, cs =>
    cs.take (first - place) ++
      (replacement ++ substitute replacement last rest (cs.drop (last - place)))

/-- The text with `replacement` in place of every match. -/
def replaceAll (p : Finder) (replacement cs : List Char) : List Char :=
  substitute replacement 0 (p.spans cs) cs

end Finder

namespace Pattern

/-- The matches of a pattern. -/
def finder (p : Pattern) : Finder := ⟨p.spansFrom none 0 0 true⟩

/-- The text with `replacement` in place of every match. -/
def replaceAll (p : Pattern) (replacement cs : List Char) : List Char :=
  p.finder.replaceAll replacement cs

/-- The engine for the notation of this library. -/
def engine : PatternEngine := fun s => (read? s).map finder

end Pattern

end Turnstile
