import Turnstile.Dispatch.Channel
import Turnstile.Moderation.Error

/-!
# Credentials of providers

The credential of a provider is the first key of the channel that bears a configured name. Which
channel that was is remembered by number, and as long as a channel with that number is there it is
used; when it is gone, or cannot be looked up, the number is forgotten and the name is looked up
again.
-/

namespace Turnstile.Moderation

/-- The table of channels. While `failure` is set every look-up fails with it. -/
structure Directory where
  channels : List Channel := []
  failure : Option String := none
  deriving DecidableEq, Repr

namespace Directory

/-- The first channel that satisfies `p`. -/
def find (p : Channel → Bool) (d : Directory) : Except ModerationError (Option Channel) :=
  match d.failure with
  | some reason => .error (.directory reason)
  | none => .ok (d.channels.find? p)

/-- The channel with a number. -/
def byId (id : Int) (d : Directory) : Except ModerationError (Option Channel) :=
  d.find fun c => c.id == id

/-- The first channel with a name. -/
def byName (name : String) (d : Directory) : Except ModerationError (Option Channel) :=
  d.find fun c => c.name == name

end Directory

/-- The credential of a channel. -/
def credentialOf (c : Channel) : Except ModerationError String :=
  match c.firstKey? with
  | some key => .ok key
  | none => .error .emptyKey

/-- The name under which a credential is looked up, and the number of the channel that was found,
zero if none is remembered. -/
structure CredentialCache where
  name : String
  channel : Int := 0
  deriving DecidableEq, Repr

namespace CredentialCache

/-- Looks the name up and remembers the channel. -/
def resolveByName (d : Directory) (c : CredentialCache) :
    Except ModerationError String × CredentialCache :=
  match d.byName c.name with
  | .error e => (.error e, c)
  | .ok none => (.error (.channelNotFound c.name), c)
  | .ok (some ch) => (credentialOf ch, { c with channel := ch.id })

/-- The credential, from the channel remembered if it is there. -/
def resolve (d : Directory) (c : CredentialCache) :
    Except ModerationError String × CredentialCache :=
  if 0 < c.channel then
    match d.byId c.channel with
    | .ok (some ch) => (credentialOf ch, c)
    | .ok none | .error _ => resolveByName d { c with channel := 0 }
  else resolveByName d c

end CredentialCache

end Turnstile.Moderation
