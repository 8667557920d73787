import Turnstile.Moderation.Provider

/-!
# Providers that follow a script

A scripted provider gives one answer after the other, and past the end of its script finds nothing
wrong with any text. It keeps the calls that were made to it. With two of them a gate can be walked
through every way in which providers answer and fail.
-/

namespace Turnstile.Moderation

/-- What is left of a script, and the calls made so far, the latest first: the provider, the
credential and the text. -/
structure Script where
  answers : List (Except ModerationError (List String)) := []
  calls : List (String × String × String) := []

/-- The next answer of a script, and the script behind it. -/
def Script.next (name credential text : String) (s : Script) :
    Except ModerationError (List String) × Script :=
  let calls := (name, credential, text) :: s.calls
  match s.answers with
  | [] => (.ok [], ⟨[], calls⟩)
  | a :: r => (a, ⟨r, calls⟩)

/-- The scripts of two providers. -/
structure Scripts where
  primary : Script := {}
  fallback : Script := {}

namespace Scripts

/-- The provider that follows the first script. -/
def primaryProvider (name : String) : Provider Scripts where
  name := name
  judge credential text _ s := match s.primary.next name credential text with
    | (r, primary) => (r, { s with primary := primary })

/-- The provider that follows the second script. -/
def fallbackProvider (name : String) : Provider Scripts where
  name := name
  judge credential text _ s := match s.fallback.next name credential text with
    | (r, fallback) => (r, { s with fallback := fallback })

/-- The calls made, those to the first provider before those to the second. -/
def calls (s : Scripts) : List (String × String × String) :=
  s.primary.calls.reverse ++ s.fallback.calls.reverse

/-- The scripts with no calls noted. -/
def forgetCalls (s : Scripts) : Scripts :=
  ⟨{ s.primary with calls := [] }, { s.fallback with calls := [] }⟩

end Scripts

end Turnstile.Moderation
