import Turnstile.Text.Cut
import Turnstile.Text.Utf8
import Turnstile.Json.Basic

/-!
# Calls over HTTP

The gateway only ever posts JSON. A transport carries a call and brings back the reply, or nothing
where none came: no such host, no valid address or header, a connection that failed.
-/

namespace Turnstile.Http

/-- A JSON document to be posted, with a bearer credential if it needs one. -/
structure Call where
  url : String
  credential : Option String
  body : Json

/-- What comes back. -/
structure Reply where
  status : Nat
  body : List UInt8

/-- What carries calls. It may have a state of its own. -/
abbrev Transport (τ : Type) := Call → τ → Option Reply × τ

/-- A transport to nowhere. -/
def unreachable {τ : Type} : Transport τ := fun _ t => (none, t)

/-- A status that tells of a failure. -/
def Reply.failed (r : Reply) : Bool := 400 ≤ r.status

/-- The text of a reply; bytes that are no text are replaced. -/
def Reply.text (r : Reply) : String := String.ofList (Text.Utf8.decode r.body).1

end Turnstile.Http
