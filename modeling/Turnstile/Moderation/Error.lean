import Turnstile.Http.Status

/-!
# Failures of moderation

Why a provider gave no verdict: it has no usable credential, or its call failed.
-/

namespace Turnstile

/-- Why there is no verdict. -/
inductive ModerationError where
  /-- No channel with the name that the credential should be under. -/
  | channelNotFound (name : String)
  /-- A channel without a credential. -/
  | emptyKey
  /-- The channels could not be looked up. -/
  | directory (reason : String)
  /-- No reply came. -/
  | noReply
  /-- The reply tells of a failure. -/
  | refused (provider : String) (status : Nat) (body : String)
  /-- The reply is no verdict. -/
  | malformed (reason : String)
  /-- The client went away. -/
  | cancelled
  deriving DecidableEq, Repr

namespace ModerationError

/-- What is said of a missing verdict. -/
def message : ModerationError → String
  | channelNotFound name => "moderation channel " ++ name ++ " not found"
  | emptyKey => "moderation channel key is empty"
  | directory reason => "moderation channel lookup failed: " ++ reason
  | noReply => "moderation request failed: no reply"
  | refused provider status body =>
    provider ++ " moderation failed with status " ++ Http.statusText status ++ ": " ++ body
  | malformed reason => "invalid moderation response: " ++ reason
  | cancelled => "moderation request cancelled"

/-- The provider has no usable credential, as opposed to a call that failed. -/
def unavailable : ModerationError → Bool
  | channelNotFound _ | emptyKey => true
  | _ => false

end ModerationError

end Turnstile
